import Paygate.Charset.CodeTable

/-!
# Macintosh

The upper halves of the sets of the Macintosh.
A byte without a character has U+FFFD.
-/

namespace Paygate.Charset

def macArabic : String :=
  "Ä\u00a0ÇÉÑÖÜáàâä\u06ba«çéèêëí…îïñó»ôö÷úùûü" ++
  " !\x22#$٪&'()*+،-./\u0660\u0661\u0662\u0663\u0664\u0665\u0666\u0667\u0668\u0669:\u061b<=>" ++
  "\u061f❊\u0621\u0622\u0623\u0624\u0625\u0626\u0627\u0628\u0629\u062a\u062b\u062c\u062d" ++
  "\u062e\u062f\u0630\u0631\u0632\u0633\u0634\u0635\u0636\u0637\u0638\u0639\u063a[\x5c]^_" ++
  "\u0640\u0641\u0642\u0643\u0644\u0645\u0646\u0647\u0648\u0649\u064a\u064b\u064c\u064d\u064e" ++
  "\u064f\u0650\u0651\u0652\u067e\u0679\u0686\u06d5\u06a4\u06af\u0688\u0691\x7b|\x7d\u0698" ++
  "\u06d2"

def macCroatian : String :=
  "ÄÅÇÉÑÖÜáàâäãåçéèêëíìîïñóòôöõúùûü" ++
  "†°¢£§•¶ß®Š™´¨≠ŽØ∞±≤≥∆µ∂∑∏š∫ªºΩžø" ++
  "¿¡¬√ƒ≈Ć«Č…\u00a0ÀÃÕŒœĐ—“”‘’÷◊\uf8ff©⁄€‹›Æ»" ++
  "–·‚„‰ÂćÁčÈÍÎÏÌÓÔđÒÚÛÙıˆ˜¯πË˚¸Êæˇ"

def macCyrillic : String :=
  "АБВГДЕЖЗИЙКЛМНОПРСТУФХЦЧШЩЪЫЬЭЮЯ" ++
  "†°Ґ£§•¶І®©™Ђђ≠Ѓѓ∞±≤≥іµґЈЄєЇїЉљЊњ" ++
  "јЅ¬√ƒ≈∆«»…\u00a0ЋћЌќѕ–—“”‘’÷„ЎўЏџ№Ёёя" ++
  "абвгдежзийклмнопрстуфхцчшщъыьэю€"

def macFarsi : String :=
  "Ä\u00a0ÇÉÑÖÜáàâä\u06ba«çéèêëí…îïñó»ôö÷úùûü" ++
  " !\x22#$٪&'()*+،-./۰۱۲۳۴۵۶۷۸۹:\u061b<=>\u061f" ++
  "❊\u0621\u0622\u0623\u0624\u0625\u0626\u0627\u0628\u0629\u062a\u062b\u062c\u062d\u062e" ++
  "\u062f\u0630\u0631\u0632\u0633\u0634\u0635\u0636\u0637\u0638\u0639\u063a[\x5c]^_\u0640" ++
  "\u0641\u0642\u0643\u0644\u0645\u0646\u0647\u0648\u0649\u064a\u064b\u064c\u064d\u064e\u064f" ++
  "\u0650\u0651\u0652\u067e\u0679\u0686\u06d5\u06a4\u06af\u0688\u0691\x7b|\x7d\u0698\u06d2"

def macGreek : String :=
  "Ä¹²É³ÖÜ΅àâä΄¨çéèêë£™îï•½‰ôö¦€ùûü" ++
  "†ΓΔΘΛΞΠß®©ΣΪ§≠°·Α±≤≥¥ΒΕΖΗΙΚΜΦΫΨΩ" ++
  "άΝ¬ΟΡ≈Τ«»…\u00a0ΥΧΆΈœ–―“”‘’÷ΉΊΌΎέήίόΏ" ++
  "ύαβψδεφγηιξκλμνοπώρστθωςχυζϊϋΐΰ\u00ad"

def macIceland : String :=
  "ÄÅÇÉÑÖÜáàâäãåçéèêëíìîïñóòôöõúùûü" ++
  "Ý°¢£§•¶ß®©™´¨≠ÆØ∞±≤≥¥µ∂∑∏π∫ªºΩæø" ++
  "¿¡¬√ƒ≈∆«»…\u00a0ÀÃÕŒœ–—“”‘’÷◊ÿŸ⁄€ÐðÞþ" ++
  "ý·‚„‰ÂÊÁËÈÍÎÏÌÓÔ\uf8ffÒÚÛÙıˆ˜¯˘˙˚¸˝˛ˇ"

def macLatin2 : String :=
  "ÄĀāÉĄÖÜáąČäčĆćéŹźĎíďĒēĖóėôöõúĚěü" ++
  "†°Ę£§•¶ß®©™ę¨≠ģĮįĪ≤≥īĶ∂∑łĻļĽľĹĺŅ" ++
  "ņŃ¬√ńŇ∆«»…\u00a0ňŐÕőŌ–—“”‘’÷◊ōŔŕŘ‹›řŖ" ++
  "ŗŠ‚„šŚśÁŤťÍŽžŪÓÔūŮÚůŰűŲųÝýķŻŁżĢˇ"

def macRoman : String :=
  "ÄÅÇÉÑÖÜáàâäãåçéèêëíìîïñóòôöõúùûü" ++
  "†°¢£§•¶ß®©™´¨≠ÆØ∞±≤≥¥µ∂∑∏π∫ªºΩæø" ++
  "¿¡¬√ƒ≈∆«»…\u00a0ÀÃÕŒœ–—“”‘’÷◊ÿŸ⁄€‹›ﬁﬂ" ++
  "‡·‚„‰ÂÊÁËÈÍÎÏÌÓÔ\uf8ffÒÚÛÙıˆ˜¯˘˙˚¸˝˛ˇ"

def macRomanian : String :=
  "ÄÅÇÉÑÖÜáàâäãåçéèêëíìîïñóòôöõúùûü" ++
  "†°¢£§•¶ß®©™´¨≠ĂȘ∞±≤≥¥µ∂∑∏π∫ªºΩăș" ++
  "¿¡¬√ƒ≈∆«»…\u00a0ÀÃÕŒœ–—“”‘’÷◊ÿŸ⁄€‹›Țț" ++
  "‡·‚„‰ÂÊÁËÈÍÎÏÌÓÔ\uf8ffÒÚÛÙıˆ˜¯˘˙˚¸˝˛ˇ"

def macTurkish : String :=
  "ÄÅÇÉÑÖÜáàâäãåçéèêëíìîïñóòôöõúùûü" ++
  "†°¢£§•¶ß®©™´¨≠ÆØ∞±≤≥¥µ∂∑∏π∫ªºΩæø" ++
  "¿¡¬√ƒ≈∆«»…\u00a0ÀÃÕŒœ–—“”‘’÷◊ÿŸĞğİıŞş" ++
  "‡·‚„‰ÂÊÁËÈÍÎÏÌÓÔ\uf8ffÒÚÛÙ\uf8a0ˆ˜¯˘˙˚¸˝˛ˇ"

end Paygate.Charset
