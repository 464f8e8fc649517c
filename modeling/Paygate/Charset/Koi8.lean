import Paygate.Charset.CodeTable

/-!
# Further sets of eight bits

The upper halves of the sets of Cyrillic mail and of one for terminals.
A byte without a character has U+FFFD.
-/

namespace Paygate.Charset

def koi8R : String :=
  "─│┌┐└┘├┤┬┴┼▀▄█▌▐░▒▓⌠■∙√≈≤≥\u00a0⌡°²·÷" ++
  "═║╒ё╓╔╕╖╗╘╙╚╛╜╝╞╟╠╡Ё╢╣╤╥╦╧╨╩╪╫╬©" ++
  "юабцдефгхийклмнопярстужвьызшэщчъ" ++
  "ЮАБЦДЕФГХИЙКЛМНОПЯРСТУЖВЬЫЗШЭЩЧЪ"

def koi8T : String :=
  "қғ‚Ғ„…†‡�‰ҳ‹ҲҷҶ�Қ‘’“”•–—�™�›����" ++
  "�ӯӮё¤ӣ¦§���«¬\u00ad®�°±²Ё�Ӣ¶·�№�»���©" ++
  "юабцдефгхийклмнопярстужвьызшэщчъ" ++
  "ЮАБЦДЕФГХИЙКЛМНОПЯРСТУЖВЬЫЗШЭЩЧЪ"

def koi8U : String :=
  "─│┌┐└┘├┤┬┴┼▀▄█▌▐░▒▓⌠■∙√≈≤≥\u00a0⌡°²·÷" ++
  "═║╒ёє╔ії╗╘╙╚╛ґ╝╞╟╠╡ЁЄ╣ІЇ╦╧╨╩╪Ґ╬©" ++
  "юабцдефгхийклмнопярстужвьызшэщчъ" ++
  "ЮАБЦДЕФГХИЙКЛМНОПЯРСТУЖВЬЫЗШЭЩЧЪ"

def hpRoman8 : String :=
  controls ++
  "\u00a0ÀÂÈÊËÎÏ´ˋˆ¨˜ÙÛ₤¯Ýý°ÇçÑñ¡¿¤£¥§ƒ¢" ++
  "âêôûáéóúàèòùäëöüÅîØÆåíøæÄìÖÜÉïßÔ" ++
  "ÁÃãÐðÍÌÓÒÕõŠšÚŸÿÞþ·µ¶¾—¼½ªº«■»±�"

end Paygate.Charset
