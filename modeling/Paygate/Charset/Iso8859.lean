import Paygate.Charset.CodeTable

/-!
# ISO 8859

The upper halves of the parts of ISO 8859 and of Thai sets close to them.
A byte without a character has U+FFFD.
-/

namespace Paygate.Charset

def iso8859Part2 : String :=
  controls ++
  "\u00a0Ą˘Ł¤ĽŚ§¨ŠŞŤŹ\u00adŽŻ°ą˛ł´ľśˇ¸šşťź˝žż" ++
  "ŔÁÂĂÄĹĆÇČÉĘËĚÍÎĎĐŃŇÓÔŐÖ×ŘŮÚŰÜÝŢß" ++
  "ŕáâăäĺćçčéęëěíîďđńňóôőö÷řůúűüýţ˙"

def iso8859Part3 : String :=
  controls ++
  "\u00a0Ħ˘£¤�Ĥ§¨İŞĞĴ\u00ad�Ż°ħ²³´µĥ·¸ışğĵ½�ż" ++
  "ÀÁÂ�ÄĊĈÇÈÉÊËÌÍÎÏ�ÑÒÓÔĠÖ×ĜÙÚÛÜŬŜß" ++
  "àáâ�äċĉçèéêëìíîï�ñòóôġö÷ĝùúûüŭŝ˙"

def iso8859Part4 : String :=
  controls ++
  "\u00a0ĄĸŖ¤ĨĻ§¨ŠĒĢŦ\u00adŽ¯°ą˛ŗ´ĩļˇ¸šēģŧŊžŋ" ++
  "ĀÁÂÃÄÅÆĮČÉĘËĖÍÎĪĐŅŌĶÔÕÖ×ØŲÚÛÜŨŪß" ++
  "āáâãäåæįčéęëėíîīđņōķôõö÷øųúûüũū˙"

def iso8859Part5 : String :=
  controls ++
  "\u00a0ЁЂЃЄЅІЇЈЉЊЋЌ\u00adЎЏАБВГДЕЖЗИЙКЛМНОП" ++
  "РСТУФХЦЧШЩЪЫЬЭЮЯабвгдежзийклмноп" ++
  "рстуфхцчшщъыьэюя№ёђѓєѕіїјљњћќ§ўџ"

def iso8859Part6 : String :=
  controls ++
  "\u00a0���¤�������،\u00ad�������������\u061b���\u061f" ++
  "�\u0621\u0622\u0623\u0624\u0625\u0626\u0627\u0628\u0629\u062a\u062b\u062c\u062d\u062e" ++
  "\u062f\u0630\u0631\u0632\u0633\u0634\u0635\u0636\u0637\u0638\u0639\u063a�����\u0640\u0641" ++
  "\u0642\u0643\u0644\u0645\u0646\u0647\u0648\u0649\u064a\u064b\u064c\u064d\u064e\u064f\u0650" ++
  "\u0651\u0652�������������"

def iso8859Part7 : String :=
  controls ++
  "\u00a0‘’£€₯¦§¨©ͺ«¬\u00ad�―°±²³΄΅Ά·ΈΉΊ»Ό½ΎΏ" ++
  "ΐΑΒΓΔΕΖΗΘΙΚΛΜΝΞΟΠΡ�ΣΤΥΦΧΨΩΪΫάέήί" ++
  "ΰαβγδεζηθικλμνξοπρςστυφχψωϊϋόύώ�"

def iso8859Part8 : String :=
  controls ++
  "\u00a0�¢£¤¥¦§¨©×«¬\u00ad®¯°±²³´µ¶·¸¹÷»¼½¾�" ++
  "�������������������������������‗" ++
  "\u05d0\u05d1\u05d2\u05d3\u05d4\u05d5\u05d6\u05d7\u05d8\u05d9\u05da\u05db\u05dc\u05dd\u05de" ++
  "\u05df\u05e0\u05e1\u05e2\u05e3\u05e4\u05e5\u05e6\u05e7\u05e8\u05e9\u05ea��\u200e\u200f�"

def iso8859Part9 : String :=
  controls ++
  "\u00a0¡¢£¤¥¦§¨©ª«¬\u00ad®¯°±²³´µ¶·¸¹º»¼½¾¿" ++
  "ÀÁÂÃÄÅÆÇÈÉÊËÌÍÎÏĞÑÒÓÔÕÖ×ØÙÚÛÜİŞß" ++
  "àáâãäåæçèéêëìíîïğñòóôõö÷øùúûüışÿ"

def iso8859Part10 : String :=
  controls ++
  "\u00a0ĄĒĢĪĨĶ§ĻĐŠŦŽ\u00adŪŊ°ąēģīĩķ·ļđšŧž―ūŋ" ++
  "ĀÁÂÃÄÅÆĮČÉĘËĖÍÎÏÐŅŌÓÔÕÖŨØŲÚÛÜÝÞß" ++
  "āáâãäåæįčéęëėíîïðņōóôõöũøųúûüýþĸ"

def iso8859Part11 : String :=
  controls ++
  "\u00a0กขฃคฅฆงจฉชซฌญฎฏฐฑฒณดตถทธนบปผฝพฟ" ++
  "ภมยรฤลฦวศษสหฬอฮฯะ\u0e31าำ\u0e34\u0e35\u0e36\u0e37\u0e38\u0e39\u0e3a����฿" ++
  "เแโใไๅๆ\u0e47\u0e48\u0e49\u0e4a\u0e4b\u0e4c\u0e4d\u0e4e๏๐๑๒๓๔๕๖๗๘๙๚๛����"

def iso8859Part13 : String :=
  controls ++
  "\u00a0”¢£¤„¦§Ø©Ŗ«¬\u00ad®Æ°±²³“µ¶·ø¹ŗ»¼½¾æ" ++
  "ĄĮĀĆÄÅĘĒČÉŹĖĢĶĪĻŠŃŅÓŌÕÖ×ŲŁŚŪÜŻŽß" ++
  "ąįāćäåęēčéźėģķīļšńņóōõö÷ųłśūüżž’"

def iso8859Part14 : String :=
  controls ++
  "\u00a0Ḃḃ£ĊċḊ§Ẁ©ẂḋỲ\u00ad®ŸḞḟĠġṀṁ¶ṖẁṗẃṠỳẄẅṡ" ++
  "ÀÁÂÃÄÅÆÇÈÉÊËÌÍÎÏŴÑÒÓÔÕÖṪØÙÚÛÜÝŶß" ++
  "àáâãäåæçèéêëìíîïŵñòóôõöṫøùúûüýŷÿ"

def iso8859Part15 : String :=
  controls ++
  "\u00a0¡¢£€¥Š§š©ª«¬\u00ad®¯°±²³Žµ¶·ž¹º»ŒœŸ¿" ++
  "ÀÁÂÃÄÅÆÇÈÉÊËÌÍÎÏÐÑÒÓÔÕÖ×ØÙÚÛÜÝÞß" ++
  "àáâãäåæçèéêëìíîïðñòóôõö÷øùúûüýþÿ"

def iso8859Part16 : String :=
  controls ++
  "\u00a0ĄąŁ€„Š§š©Ș«Ź\u00adźŻ°±ČłŽ”¶·žčș»ŒœŸż" ++
  "ÀÁÂĂÄĆÆÇÈÉÊËÌÍÎÏĐŃÒÓÔŐÖŚŰÙÚÛÜĘȚß" ++
  "àáâăäćæçèéêëìíîïđńòóôőöśűùúûüęțÿ"

def tis620 : String :=
  controls ++
  "�กขฃคฅฆงจฉชซฌญฎฏฐฑฒณดตถทธนบปผฝพฟ" ++
  "ภมยรฤลฦวศษสหฬอฮฯะ\u0e31าำ\u0e34\u0e35\u0e36\u0e37\u0e38\u0e39\u0e3a����฿" ++
  "เแโใไๅๆ\u0e47\u0e48\u0e49\u0e4a\u0e4b\u0e4c\u0e4d\u0e4e๏๐๑๒๓๔๕๖๗๘๙๚๛����"

end Paygate.Charset
