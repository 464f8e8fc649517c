import Paygate.Charset.Basic

/-!
# Names of charsets

A charset has a name and others that stand for it. Names do not depend on case, and whatever is no
ASCII letter, digit or dot separates their words. In the other names a dot may separate words too.
-/

namespace Paygate.Charset

/-- The names of a list, separated by blanks. -/
def expand (rows : List (Charset × String)) : List (String × Charset) :=
  rows.flatMap fun (charset, names) => (names.splitOn " ").map fun name => (name, charset)

def mainNames : List (Charset × String) :=
  [(.ascii, "ascii"),
   (.bytesCoding, "base64_codec bz2_codec hex_codec quopri_codec uu_codec zlib_codec"),
   (.big5, "big5"),
   (.big5HongKong, "big5hkscs"),
   (.latin1, "charmap latin_1"),
   (.whole cp037, "cp037"),
   (.upper cp1006, "cp1006"),
   (.whole cp1026, "cp1026"),
   (.upper cp1125, "cp1125"),
   (.whole cp1140, "cp1140"),
   (.upper windows1250, "cp1250"),
   (.upper windows1251, "cp1251"),
   (.upper windows1252, "cp1252"),
   (.upper windows1253, "cp1253"),
   (.upper windows1254, "cp1254"),
   (.upper windows1255, "cp1255"),
   (.upper windows1256, "cp1256"),
   (.upper windows1257, "cp1257"),
   (.upper windows1258, "cp1258"),
   (.whole cp273, "cp273"),
   (.whole cp424, "cp424"),
   (.upper cp437, "cp437"),
   (.whole cp500, "cp500"),
   (.upper cp720, "cp720"),
   (.upper cp737, "cp737"),
   (.upper cp775, "cp775"),
   (.upper cp850, "cp850"),
   (.upper cp852, "cp852"),
   (.upper cp855, "cp855"),
   (.upper cp856, "cp856"),
   (.upper cp857, "cp857"),
   (.upper cp858, "cp858"),
   (.upper cp860, "cp860"),
   (.upper cp861, "cp861"),
   (.upper cp862, "cp862"),
   (.upper cp863, "cp863"),
   (.whole cp864, "cp864"),
   (.upper cp865, "cp865"),
   (.upper cp866, "cp866"),
   (.upper cp869, "cp869"),
   (.upper cp874, "cp874"),
   (.whole cp875, "cp875"),
   (.shiftJisWindows, "cp932"),
   (.unifiedKorean, "cp949"),
   (.big5Windows, "cp950"),
   (.eucPlanes .second, "euc_jis_2004"),
   (.eucPlanes .first, "euc_jisx0213"),
   (.eucJapanese, "euc_jp"),
   (.eucKorean, "euc_kr"),
   (.gb18030, "gb18030"),
   (.gb2312, "gb2312"),
   (.gbk, "gbk"),
   (.upper hpRoman8, "hp_roman8"),
   (.hz, "hz"),
   (.hostNames, "idna"),
   (.iso2022 Iso2022.japanese, "iso2022_jp"),
   (.iso2022 Iso2022.japanese1, "iso2022_jp_1"),
   (.iso2022 Iso2022.japanese2, "iso2022_jp_2"),
   (.iso2022 Iso2022.japanese2004, "iso2022_jp_2004"),
   (.iso2022 Iso2022.japanese3, "iso2022_jp_3"),
   (.iso2022 Iso2022.japaneseExtended, "iso2022_jp_ext"),
   (.iso2022 Iso2022.korean, "iso2022_kr"),
   (.upper iso8859Part10, "iso8859_10"),
   (.upper iso8859Part11, "iso8859_11"),
   (.upper iso8859Part13, "iso8859_13"),
   (.upper iso8859Part14, "iso8859_14"),
   (.upper iso8859Part15, "iso8859_15"),
   (.upper iso8859Part16, "iso8859_16"),
   (.upper iso8859Part2, "iso8859_2"),
   (.upper iso8859Part3, "iso8859_3"),
   (.upper iso8859Part4, "iso8859_4"),
   (.upper iso8859Part5, "iso8859_5"),
   (.upper iso8859Part6, "iso8859_6"),
   (.upper iso8859Part7, "iso8859_7"),
   (.upper iso8859Part8, "iso8859_8"),
   (.upper iso8859Part9, "iso8859_9"),
   (.johab, "johab"),
   (.upper koi8R, "koi8_r"),
   (.upper koi8T, "koi8_t"),
   (.upper koi8U, "koi8_u"),
   (.upper kz1048, "kz1048"),
   (.upper macArabic, "mac_arabic"),
   (.upper macCroatian, "mac_croatian"),
   (.upper macCyrillic, "mac_cyrillic"),
   (.upper macFarsi, "mac_farsi"),
   (.upper macGreek, "mac_greek"),
   (.upper macIceland, "mac_iceland"),
   (.upper macLatin2, "mac_latin2"),
   (.upper macRoman, "mac_roman"),
   (.upper macRomanian, "mac_romanian"),
   (.upper macTurkish, "mac_turkish"),
   (.upper palmos, "palmos"),
   (.upper ptcp154, "ptcp154"),
   (.punycode, "punycode"),
   (.escapes true, "raw_unicode_escape"),
   (.letterCoding, "rot_13"),
   (.shiftJis, "shift_jis"),
   (.shiftJisPlanes .second, "shift_jis_2004"),
   (.shiftJisPlanes .first, "shift_jisx0213"),
   (.upper tis620, "tis_620"),
   (.undefined, "undefined"),
   (.escapes false, "unicode_escape"),
   (.utf16 none, "utf_16"),
   (.utf16 (some .big), "utf_16_be"),
   (.utf16 (some .little), "utf_16_le"),
   (.utf32 none, "utf_32"),
   (.utf32 (some .big), "utf_32_be"),
   (.utf32 (some .little), "utf_32_le"),
   (.utf7, "utf_7"),
   (.utf8, "utf_8"),
   (.utf8Marked, "utf_8_sig")]

def otherNames : List (Charset × String) :=
  [(.whole cp037,
     "037 csibm037 ebcdic_cp_ca ebcdic_cp_nl ebcdic_cp_us ebcdic_cp_wt ibm037 ibm039"),
   (.whole cp1026, "1026 csibm1026 ibm1026"),
   (.upper cp1125, "1125 cp866u ibm1125 ruscii"),
   (.whole cp1140, "1140 ibm1140"),
   (.upper windows1250, "1250 windows_1250"),
   (.upper windows1251, "1251 windows_1251"),
   (.upper windows1252, "1252 windows_1252"),
   (.upper windows1253, "1253 windows_1253"),
   (.upper windows1254, "1254 windows_1254"),
   (.upper windows1255, "1255 windows_1255"),
   (.upper windows1256, "1256 windows_1256"),
   (.upper windows1257, "1257 windows_1257"),
   (.upper windows1258, "1258 windows_1258"),
   (.whole cp273, "273 csibm273 ibm273"),
   (.whole cp424, "424 csibm424 ebcdic_cp_he ibm424"),
   (.upper cp437, "437 cspc8codepage437 ibm437"),
   (.whole cp500, "500 csibm500 ebcdic_cp_be ebcdic_cp_ch ibm500"),
   (.ascii,
     "646 ansi_x3.4_1968 ansi_x3.4_1986 ansi_x3_4_1968 cp367 csascii ibm367 iso646_us " ++
     "iso_646.irv_1991 iso_ir_6 us us_ascii"),
   (.upper cp775, "775 cspc775baltic ibm775"),
   (.upper cp850, "850 cspc850multilingual ibm850"),
   (.upper cp852, "852 cspcp852 ibm852"),
   (.upper cp855, "855 csibm855 ibm855"),
   (.upper cp857, "857 csibm857 ibm857"),
   (.upper cp858, "858 csibm858 ibm858"),
   (.upper cp860, "860 csibm860 ibm860"),
   (.upper cp861, "861 cp_is csibm861 ibm861"),
   (.upper cp862, "862 cspc862latinhebrew ibm862"),
   (.upper cp863, "863 csibm863 ibm863"),
   (.whole cp864, "864 csibm864 ibm864"),
   (.upper cp865, "865 csibm865 ibm865"),
   (.upper cp866, "866 csibm866 ibm866"),
   (.upper cp869, "869 cp_gr csibm869 ibm869"),
   (.latin1,
     "8859 cp819 csisolatin1 ibm819 iso8859 iso8859_1 iso_8859_1 iso_8859_1_1987 " ++
     "iso_ir_100 l1 latin latin1"),
   (.shiftJisWindows, "932 ms932 ms_kanji mskanji"),
   (.gbk, "936 cp936 ms936"),
   (.unifiedKorean, "949 ms949 uhc"),
   (.big5Windows, "950 ms950"),
   (.upper iso8859Part6,
     "arabic asmo_708 csisolatinarabic ecma_114 iso_8859_6 iso_8859_6_1987 iso_ir_127"),
   (.bytesCoding, "base64 base_64 bz2 hex quopri quoted_printable quotedprintable uu zip zlib"),
   (.big5HongKong, "big5_hkscs hkscs"),
   (.big5, "big5_tw csbig5 x_mac_trad_chinese"),
   (.gb2312,
     "chinese csiso58gb231280 euc_cn euccn eucgb2312_cn gb2312_1980 gb2312_80 iso_ir_58 " ++
     "x_mac_simp_chinese"),
   (.upper hpRoman8, "cp1051 ibm1051 r8 roman8"),
   (.johab, "cp1361 ms1361"),
   (.upper ptcp154, "cp154 csptcp154 cyrillic_asian pt154"),
   (.utf8, "cp65001 u8 utf utf8 utf8_ucs2 utf8_ucs4"),
   (.iso2022 Iso2022.japanese, "csiso2022jp iso2022jp iso_2022_jp"),
   (.iso2022 Iso2022.korean, "csiso2022kr iso2022kr iso_2022_kr"),
   (.upper iso8859Part2, "csisolatin2 iso_8859_2 iso_8859_2_1987 iso_ir_101 l2 latin2"),
   (.upper iso8859Part3, "csisolatin3 iso_8859_3 iso_8859_3_1988 iso_ir_109 l3 latin3"),
   (.upper iso8859Part4, "csisolatin4 iso_8859_4 iso_8859_4_1988 iso_ir_110 l4 latin4"),
   (.upper iso8859Part9, "csisolatin5 iso_8859_9 iso_8859_9_1989 iso_ir_148 l5 latin5"),
   (.upper iso8859Part10, "csisolatin6 iso_8859_10 iso_8859_10_1992 iso_ir_157 l6 latin6"),
   (.upper iso8859Part5, "csisolatincyrillic cyrillic iso_8859_5 iso_8859_5_1988 iso_ir_144"),
   (.upper iso8859Part7,
     "csisolatingreek ecma_118 elot_928 greek greek8 iso_8859_7 iso_8859_7_1987 iso_ir_126"),
   (.upper iso8859Part8, "csisolatinhebrew hebrew iso_8859_8 iso_8859_8_1988 iso_ir_138"),
   (.upper koi8R, "cskoi8r"),
   (.shiftJis, "csshiftjis s_jis shiftjis sjis x_mac_japanese"),
   (.eucPlanes .second, "euc_jis2004 eucjis2004 jisx0213"),
   (.eucPlanes .first, "eucjisx0213"),
   (.eucJapanese, "eucjp u_jis ujis"),
   (.eucKorean, "euckr korean ks_c_5601 ks_c_5601_1987 ks_x_1001 ksc5601 ksx1001 x_mac_korean"),
   (.gb18030, "gb18030_2000"),
   (.hz, "hz_gb hz_gb_2312 hzgb"),
   (.iso2022 Iso2022.japanese1, "iso2022jp_1 iso_2022_jp_1"),
   (.iso2022 Iso2022.japanese2, "iso2022jp_2 iso_2022_jp_2"),
   (.iso2022 Iso2022.japanese2004, "iso2022jp_2004 iso_2022_jp_2004"),
   (.iso2022 Iso2022.japanese3, "iso2022jp_3 iso_2022_jp_3"),
   (.iso2022 Iso2022.japaneseExtended, "iso2022jp_ext iso_2022_jp_ext"),
   (.upper iso8859Part11, "iso_8859_11 iso_8859_11_2001 thai"),
   (.upper iso8859Part13, "iso_8859_13 l7 latin7"),
   (.upper iso8859Part14, "iso_8859_14 iso_8859_14_1998 iso_celtic iso_ir_199 l8 latin8"),
   (.upper iso8859Part15, "iso_8859_15 l9 latin9"),
   (.upper iso8859Part16, "iso_8859_16 iso_8859_16_2001 iso_ir_226 l10 latin10"),
   (.upper tis620, "iso_ir_166 tis620 tis_620_0 tis_620_2529_0 tis_620_2529_1"),
   (.upper kz1048, "kz_1048 rk1048 strk1048_2002"),
   (.upper macLatin2, "mac_centeuro maccentraleurope maclatin2"),
   (.upper macCyrillic, "maccyrillic"),
   (.upper macGreek, "macgreek"),
   (.upper macIceland, "maciceland"),
   (.upper macRoman, "macintosh macroman"),
   (.upper macTurkish, "macturkish"),
   (.letterCoding, "rot13"),
   (.shiftJisPlanes .second, "s_jis_2004 shiftjis2004 sjis_2004"),
   (.shiftJisPlanes .first, "s_jisx0213 shiftjisx0213 sjisx0213"),
   (.utf16 none, "u16 utf16"),
   (.utf32 none, "u32 utf32"),
   (.utf7, "u7 unicode_1_1_utf_7 utf7"),
   (.utf16 (some .big), "unicodebigunmarked utf_16be"),
   (.utf16 (some .little), "unicodelittleunmarked utf_16le"),
   (.utf32 (some .big), "utf_32be"),
   (.utf32 (some .little), "utf_32le")]

def isNameChar (c : Char) : Bool := c.isAlphanum || c = '.'

/-- The words of a name in lower case with an underscore between them. -/
def normalName (name : String) : String :=
  let words := (name.toList.splitBy fun a b => isNameChar a && isNameChar b).filter fun word =>
    word.all isNameChar
  "_".intercalate (words.map fun word => String.ofList (word.map Char.toLower))

/-- The charset of a name, if it is known. -/
def ofName? (name : String) : Except Fault (Option Charset) :=
  if name.contains (Char.ofNat 0) then .error .zeroInName
  else
    let key := normalName name
    let undotted := key.map fun c => if c = '.' then '_' else c
    let others := expand otherNames
    .ok (((others.lookup key).or (others.lookup undotted)).or ((expand mainNames).lookup key))

end Paygate.Charset
