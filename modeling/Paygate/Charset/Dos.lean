import Paygate.Charset.CodeTable

/-!
# Personal computers

The upper halves of the sets of early personal computers. One of them also changes a sign of ASCII.
A byte without a character has U+FFFD.
-/

namespace Paygate.Charset

def cp437 : String :=
  "ÇüéâäàåçêëèïîìÄÅÉæÆôöòûùÿÖÜ¢£¥₧ƒ" ++
  "áíóúñÑªº¿⌐¬½¼¡«»░▒▓│┤╡╢╖╕╣║╗╝╜╛┐" ++
  "└┴┬├─┼╞╟╚╔╩╦╠═╬╧╨╤╥╙╘╒╓╫╪┘┌█▄▌▐▀" ++
  "αßΓπΣσµτΦΘΩδ∞φε∩≡±≥≤⌠⌡÷≈°∙·√ⁿ²■\u00a0"

def cp720 : String :=
  "\u0080\u0081éâ\u0084à\u0086çêëèïî\u008d\u008e\u008f\u0090\u0651\u0652ô¤\u0640ûù\u0621" ++
  "\u0622\u0623\u0624£\u0625\u0626\u0627\u0628\u0629\u062a\u062b\u062c\u062d\u062e\u062f" ++
  "\u0630\u0631\u0632\u0633\u0634\u0635«»░▒▓│┤╡╢╖╕╣║╗╝╜╛┐└┴┬├─┼╞╟" ++
  "╚╔╩╦╠═╬╧╨╤╥╙╘╒╓╫╪┘┌█▄▌▐▀\u0636\u0637\u0638\u0639\u063a\u0641µ\u0642" ++
  "\u0643\u0644\u0645\u0646\u0647\u0648\u0649\u064a≡\u064b\u064c\u064d\u064e\u064f\u0650≈°∙·√" ++
  "ⁿ²■\u00a0"

def cp737 : String :=
  "ΑΒΓΔΕΖΗΘΙΚΛΜΝΞΟΠΡΣΤΥΦΧΨΩαβγδεζηθ" ++
  "ικλμνξοπρσςτυφχψ░▒▓│┤╡╢╖╕╣║╗╝╜╛┐" ++
  "└┴┬├─┼╞╟╚╔╩╦╠═╬╧╨╤╥╙╘╒╓╫╪┘┌█▄▌▐▀" ++
  "ωάέήϊίόύϋώΆΈΉΊΌΎΏ±≥≤ΪΫ÷≈°∙·√ⁿ²■\u00a0"

def cp775 : String :=
  "ĆüéāäģåćłēŖŗīŹÄÅÉæÆōöĢ¢ŚśÖÜø£Ø×¤" ++
  "ĀĪóŻżź”¦©®¬½¼Ł«»░▒▓│┤ĄČĘĖ╣║╗╝ĮŠ┐" ++
  "└┴┬├─┼ŲŪ╚╔╩╦╠═╬Žąčęėįšųūž┘┌█▄▌▐▀" ++
  "ÓßŌŃõÕµńĶķĻļņĒŅ’\u00ad±“¾¶§÷„°∙·¹³²■\u00a0"

def cp850 : String :=
  "ÇüéâäàåçêëèïîìÄÅÉæÆôöòûùÿÖÜø£Ø×ƒ" ++
  "áíóúñÑªº¿®¬½¼¡«»░▒▓│┤ÁÂÀ©╣║╗╝¢¥┐" ++
  "└┴┬├─┼ãÃ╚╔╩╦╠═╬¤ðÐÊËÈıÍÎÏ┘┌█▄¦Ì▀" ++
  "ÓßÔÒõÕµþÞÚÛÙýÝ¯´\u00ad±‗¾¶§÷¸°¨·¹³²■\u00a0"

def cp852 : String :=
  "ÇüéâäůćçłëŐőîŹÄĆÉĹĺôöĽľŚśÖÜŤťŁ×č" ++
  "áíóúĄąŽžĘę¬źČş«»░▒▓│┤ÁÂĚŞ╣║╗╝Żż┐" ++
  "└┴┬├─┼Ăă╚╔╩╦╠═╬¤đĐĎËďŇÍÎě┘┌█▄ŢŮ▀" ++
  "ÓßÔŃńňŠšŔÚŕŰýÝţ´\u00ad˝˛ˇ˘§÷¸°¨˙űŘř■\u00a0"

def cp855 : String :=
  "ђЂѓЃёЁєЄѕЅіІїЇјЈљЉњЊћЋќЌўЎџЏюЮъЪ" ++
  "аАбБцЦдДеЕфФгГ«»░▒▓│┤хХиИ╣║╗╝йЙ┐" ++
  "└┴┬├─┼кК╚╔╩╦╠═╬¤лЛмМнНоОп┘┌█▄Пя▀" ++
  "ЯрРсСтТуУжЖвВьЬ№\u00adыЫзЗшШэЭщЩчЧ§■\u00a0"

def cp856 : String :=
  "\u05d0\u05d1\u05d2\u05d3\u05d4\u05d5\u05d6\u05d7\u05d8\u05d9\u05da\u05db\u05dc\u05dd\u05de" ++
  "\u05df\u05e0\u05e1\u05e2\u05e3\u05e4\u05e5\u05e6\u05e7\u05e8\u05e9\u05ea�£�×����������®¬½¼" ++
  "�«»░▒▓│┤���©╣║╗╝¢¥┐└┴┬├─┼��╚╔╩╦╠" ++
  "═╬¤���������┘┌█▄¦�▀������µ������" ++
  "�¯´\u00ad±‗¾¶§÷¸°¨·¹³²■\u00a0"

def cp857 : String :=
  "ÇüéâäàåçêëèïîıÄÅÉæÆôöòûùİÖÜø£ØŞş" ++
  "áíóúñÑĞğ¿®¬½¼¡«»░▒▓│┤ÁÂÀ©╣║╗╝¢¥┐" ++
  "└┴┬├─┼ãÃ╚╔╩╦╠═╬¤ºªÊËÈ�ÍÎÏ┘┌█▄¦Ì▀" ++
  "ÓßÔÒõÕµ�×ÚÛÙìÿ¯´\u00ad±�¾¶§÷¸°¨·¹³²■\u00a0"

def cp858 : String :=
  "ÇüéâäàåçêëèïîìÄÅÉæÆôöòûùÿÖÜø£Ø×ƒ" ++
  "áíóúñÑªº¿®¬½¼¡«»░▒▓│┤ÁÂÀ©╣║╗╝¢¥┐" ++
  "└┴┬├─┼ãÃ╚╔╩╦╠═╬¤ðÐÊËÈ€ÍÎÏ┘┌█▄¦Ì▀" ++
  "ÓßÔÒõÕµþÞÚÛÙýÝ¯´\u00ad±‗¾¶§÷¸°¨·¹³²■\u00a0"

def cp860 : String :=
  "ÇüéâãàÁçêÊèÍÔìÃÂÉÀÈôõòÚùÌÕÜ¢£Ù₧Ó" ++
  "áíóúñÑªº¿Ò¬½¼¡«»░▒▓│┤╡╢╖╕╣║╗╝╜╛┐" ++
  "└┴┬├─┼╞╟╚╔╩╦╠═╬╧╨╤╥╙╘╒╓╫╪┘┌█▄▌▐▀" ++
  "αßΓπΣσµτΦΘΩδ∞φε∩≡±≥≤⌠⌡÷≈°∙·√ⁿ²■\u00a0"

def cp861 : String :=
  "ÇüéâäàåçêëèÐðÞÄÅÉæÆôöþûÝýÖÜø£Ø₧ƒ" ++
  "áíóúÁÍÓÚ¿⌐¬½¼¡«»░▒▓│┤╡╢╖╕╣║╗╝╜╛┐" ++
  "└┴┬├─┼╞╟╚╔╩╦╠═╬╧╨╤╥╙╘╒╓╫╪┘┌█▄▌▐▀" ++
  "αßΓπΣσµτΦΘΩδ∞φε∩≡±≥≤⌠⌡÷≈°∙·√ⁿ²■\u00a0"

def cp862 : String :=
  "\u05d0\u05d1\u05d2\u05d3\u05d4\u05d5\u05d6\u05d7\u05d8\u05d9\u05da\u05db\u05dc\u05dd\u05de" ++
  "\u05df\u05e0\u05e1\u05e2\u05e3\u05e4\u05e5\u05e6\u05e7\u05e8\u05e9\u05ea¢£¥₧ƒáíóúñÑªº¿⌐¬½¼" ++
  "¡«»░▒▓│┤╡╢╖╕╣║╗╝╜╛┐└┴┬├─┼╞╟╚╔╩╦╠" ++
  "═╬╧╨╤╥╙╘╒╓╫╪┘┌█▄▌▐▀αßΓπΣσµτΦΘΩδ∞" ++
  "φε∩≡±≥≤⌠⌡÷≈°∙·√ⁿ²■\u00a0"

def cp863 : String :=
  "ÇüéâÂà¶çêëèïî‗À§ÉÈÊôËÏûù¤ÔÜ¢£ÙÛƒ" ++
  "¦´óú¨¸³¯Î⌐¬½¼¾«»░▒▓│┤╡╢╖╕╣║╗╝╜╛┐" ++
  "└┴┬├─┼╞╟╚╔╩╦╠═╬╧╨╤╥╙╘╒╓╫╪┘┌█▄▌▐▀" ++
  "αßΓπΣσµτΦΘΩδ∞φε∩≡±≥≤⌠⌡÷≈°∙·√ⁿ²■\u00a0"

def cp864 : String :=
  "\x00\x01\x02\x03\x04\x05\x06\x07\x08\x09\x0a\x0b\x0c\x0d\x0e\x0f\x10\x11\x12\x13\x14\x15" ++
  "\x16\x17\x18\x19\x1a\x1b\x1c\x1d\x1e\x1f !\x22#$٪&'()*+,-./012345" ++
  "6789:;<=>?@ABCDEFGHIJKLMNOPQRSTU" ++
  "VWXYZ[\x5c]^_\x60abcdefghijklmnopqrstu" ++
  "vwxyz\x7b|\x7d~\x7f°·∙√▒─│┼┤┬├┴┐┌└┘β∞φ±½¼" ++
  "≈«»\ufef7\ufef8��\ufefb\ufefc�\u00a0\u00ad\ufe82£¤\ufe84��\ufe8e\ufe8f\ufe95\ufe99،\ufe9d" ++
  "\ufea1\ufea5\u0660\u0661\u0662\u0663\u0664\u0665\u0666\u0667\u0668\u0669\ufed1\u061b\ufeb1" ++
  "\ufeb5\ufeb9\u061f¢\ufe80\ufe81\ufe83\ufe85\ufeca\ufe8b\ufe8d\ufe91\ufe93\ufe97\ufe9b" ++
  "\ufe9f\ufea3\ufea7\ufea9\ufeab\ufead\ufeaf\ufeb3\ufeb7\ufebb\ufebf\ufec1\ufec5\ufecb\ufecf" ++
  "¦¬÷×\ufec9\u0640\ufed3\ufed7\ufedb\ufedf\ufee3\ufee7\ufeeb\ufeed\ufeef\ufef3\ufebd\ufecc" ++
  "\ufece\ufecd\ufee1\ufe7d\u0651\ufee5\ufee9\ufeec\ufef0\ufef2\ufed0\ufed5\ufef5\ufef6\ufedd" ++
  "\ufed9\ufef1■�"

def cp865 : String :=
  "ÇüéâäàåçêëèïîìÄÅÉæÆôöòûùÿÖÜø£Ø₧ƒ" ++
  "áíóúñÑªº¿⌐¬½¼¡«¤░▒▓│┤╡╢╖╕╣║╗╝╜╛┐" ++
  "└┴┬├─┼╞╟╚╔╩╦╠═╬╧╨╤╥╙╘╒╓╫╪┘┌█▄▌▐▀" ++
  "αßΓπΣσµτΦΘΩδ∞φε∩≡±≥≤⌠⌡÷≈°∙·√ⁿ²■\u00a0"

def cp866 : String :=
  "АБВГДЕЖЗИЙКЛМНОПРСТУФХЦЧШЩЪЫЬЭЮЯ" ++
  "абвгдежзийклмноп░▒▓│┤╡╢╖╕╣║╗╝╜╛┐" ++
  "└┴┬├─┼╞╟╚╔╩╦╠═╬╧╨╤╥╙╘╒╓╫╪┘┌█▄▌▐▀" ++
  "рстуфхцчшщъыьэюяЁёЄєЇїЎў°∙·√№¤■\u00a0"

def cp869 : String :=
  "������Ά�·¬¦‘’Έ―ΉΊΪΌ��ΎΫ©Ώ²³ά£έήί" ++
  "ϊΐόύΑΒΓΔΕΖΗ½ΘΙ«»░▒▓│┤ΚΛΜΝ╣║╗╝ΞΟ┐" ++
  "└┴┬├─┼ΠΡ╚╔╩╦╠═╬ΣΤΥΦΧΨΩαβγ┘┌█▄δε▀" ++
  "ζηθικλμνξοπρσςτ΄\u00ad±υφχ§ψ΅°¨ωϋΰώ■\u00a0"

def cp1125 : String :=
  "АБВГДЕЖЗИЙКЛМНОПРСТУФХЦЧШЩЪЫЬЭЮЯ" ++
  "абвгдежзийклмноп░▒▓│┤╡╢╖╕╣║╗╝╜╛┐" ++
  "└┴┬├─┼╞╟╚╔╩╦╠═╬╧╨╤╥╙╘╒╓╫╪┘┌█▄▌▐▀" ++
  "рстуфхцчшщъыьэюяЁёҐґЄєІіЇї·√№¤■\u00a0"

def cp1006 : String :=
  controls ++
  "\u00a0۰۱۲۳۴۵۶۷۸۹،\u061b\u00ad\u061f\ufe81\ufe8d\ufe8e\ufe8e\ufe8f\ufe91\ufb56\ufb58\ufe93" ++
  "\ufe95\ufe97\ufb66\ufb68\ufe99\ufe9b\ufe9d\ufe9f\ufb7a\ufb7c\ufea1\ufea3\ufea5\ufea7\ufea9" ++
  "\ufb84\ufeab\ufead\ufb8c\ufeaf\ufb8a\ufeb1\ufeb3\ufeb5\ufeb7\ufeb9\ufebb\ufebd\ufebf\ufec1" ++
  "\ufec5\ufec9\ufeca\ufecb\ufecc\ufecd\ufece\ufecf\ufed0\ufed1\ufed3\ufed5\ufed7\ufed9\ufedb" ++
  "\ufb92\ufb94\ufedd\ufedf\ufee0\ufee1\ufee3\ufb9e\ufee5\ufee7\ufe85\ufeed\ufba6\ufba8\ufba9" ++
  "\ufbaa\ufe80\ufe89\ufe8a\ufe8b\ufef1\ufef2\ufef3\ufbb0\ufbae\ufe7c\ufe7d"

end Paygate.Charset
