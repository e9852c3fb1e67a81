import EngineClient.Xml.Encoding

/-!
# Code pages

The encodings that a document may name besides the ones that readers know by themselves,
with all their names. A page lists what its upper 128 octets stand for, the replacement
character where an octet stands for nothing; the lower 128 are ASCII.
-/

namespace EngineClient
namespace Xml

inductive CodeKind where
  /-- One octet a character, by the characters of the upper 128. -/
  | page (upper : String)
  /-- The same, with 32 control characters before the listed ones. -/
  | latinPage (upper : String)
  /-- ASCII less one character. -/
  | asciiWithout (c : Char)
  | multiOctet
  | notText
  | labels
  | void
  | asciiOnly
  /-- One octet a character, but the characters of tags have other octets. -/
  | unfit
  deriving Repr

/-- An encoding: names that may be written with dots too, names that may not, and what it
is. -/
structure CodePage where
  aliases : String
  names : String
  kind : CodeKind
  deriving Repr

namespace CodePage

def firstPages : List CodePage :=
  [
    ⟨"cp866u ibm1125 ruscii",
      "cp1125",
      .page
      ("АБВГДЕЖЗИЙКЛМНОПРСТУФХЦЧШЩЪЫЬЭЮЯабвгдежзийклмноп░▒▓│┤╡╢╖╕╣║╗╝╜╛┐└┴┬├─┼╞╟╚╔╩╦╠═╬╧" ++
        "╨╤╥╙╘╒╓╫╪┘┌█▄▌▐▀рстуфхцчшщъыьэюяЁёҐґЄєІіЇї·√№¤■\u00a0")⟩,
    ⟨"windows_1250",
      "cp1250",
      .page
      ("€�‚�„…†‡�‰Š‹ŚŤŽŹ�‘’“”•–—�™š›śťžź\u00a0ˇ˘Ł¤Ą¦§¨©Ş«¬\u00ad®Ż°±˛ł´µ¶·¸ąş»Ľ˝ľżŔÁÂĂÄĹ" ++
        "ĆÇČÉĘËĚÍÎĎĐŃŇÓÔŐÖ×ŘŮÚŰÜÝŢßŕáâăäĺćçčéęëěíîďđńňóôőö÷řůúűüýţ˙")⟩,
    ⟨"windows_1251",
      "cp1251",
      .page
      ("ЂЃ‚ѓ„…†‡€‰Љ‹ЊЌЋЏђ‘’“”•–—�™љ›њќћџ\u00a0ЎўЈ¤Ґ¦§Ё©Є«¬\u00ad®Ї°±Ііґµ¶·ё№є»јЅѕїАБВГДЕ" ++
        "ЖЗИЙКЛМНОПРСТУФХЦЧШЩЪЫЬЭЮЯабвгдежзийклмнопрстуфхцчшщъыьэюя")⟩,
    ⟨"windows_1252",
      "cp1252",
      .page
      ("€�‚ƒ„…†‡ˆ‰Š‹Œ�Ž��‘’“”•–—˜™š›œ�žŸ\u00a0¡¢£¤¥¦§¨©ª«¬\u00ad®¯°±²³´µ¶·¸¹º»¼½¾¿ÀÁÂÃÄÅ" ++
        "ÆÇÈÉÊËÌÍÎÏÐÑÒÓÔÕÖ×ØÙÚÛÜÝÞßàáâãäåæçèéêëìíîïðñòóôõö÷øùúûüýþÿ")⟩,
    ⟨"windows_1253",
      "cp1253",
      .page
      ("€�‚ƒ„…†‡�‰�‹�����‘’“”•–—�™�›����\u00a0΅Ά£¤¥¦§¨©�«¬\u00ad®―°±²³΄µ¶·ΈΉΊ»Ό½ΎΏΐΑΒΓΔΕ" ++
        "ΖΗΘΙΚΛΜΝΞΟΠΡ�ΣΤΥΦΧΨΩΪΫάέήίΰαβγδεζηθικλμνξοπρςστυφχψωϊϋόύώ�")⟩,
    ⟨"windows_1254",
      "cp1254",
      .page
      ("€�‚ƒ„…†‡ˆ‰Š‹Œ����‘’“”•–—˜™š›œ��Ÿ\u00a0¡¢£¤¥¦§¨©ª«¬\u00ad®¯°±²³´µ¶·¸¹º»¼½¾¿ÀÁÂÃÄÅ" ++
        "ÆÇÈÉÊËÌÍÎÏĞÑÒÓÔÕÖ×ØÙÚÛÜİŞßàáâãäåæçèéêëìíîïğñòóôõö÷øùúûüışÿ")⟩,
    ⟨"windows_1255",
      "cp1255",
      .page
      ("€�‚ƒ„…†‡ˆ‰�‹�����‘’“”•–—˜™�›����\u00a0¡¢£₪¥¦§¨©×«¬\u00ad®¯°±²³´µ¶·¸¹÷»¼½¾¿\u05b0" ++
        "\u05b1\u05b2\u05b3\u05b4\u05b5\u05b6\u05b7\u05b8\u05b9�\u05bb\u05bc\u05bd\u05be" ++
        "\u05bf\u05c0\u05c1\u05c2\u05c3\u05f0\u05f1\u05f2\u05f3\u05f4�������\u05d0\u05d1" ++
        "\u05d2\u05d3\u05d4\u05d5\u05d6\u05d7\u05d8\u05d9\u05da\u05db\u05dc\u05dd\u05de" ++
        "\u05df\u05e0\u05e1\u05e2\u05e3\u05e4\u05e5\u05e6\u05e7\u05e8\u05e9\u05ea��\u200e" ++
        "\u200f�")⟩,
    ⟨"windows_1256",
      "cp1256",
      .page
      ("€\u067e‚ƒ„…†‡ˆ‰\u0679‹Œ\u0686\u0698\u0688\u06af‘’“”•–—\u06a9™\u0691›œ\u200c" ++
        "\u200d\u06ba\u00a0،¢£¤¥¦§¨©\u06be«¬\u00ad®¯°±²³´µ¶·¸¹\u061b»¼½¾\u061f\u06c1" ++
        "\u0621\u0622\u0623\u0624\u0625\u0626\u0627\u0628\u0629\u062a\u062b\u062c\u062d" ++
        "\u062e\u062f\u0630\u0631\u0632\u0633\u0634\u0635\u0636×\u0637\u0638\u0639\u063a" ++
        "\u0640\u0641\u0642\u0643à\u0644â\u0645\u0646\u0647\u0648çèéêë\u0649\u064aîï" ++
        "\u064b\u064c\u064d\u064eô\u064f\u0650÷\u0651ù\u0652ûü\u200e\u200f\u06d2")⟩,
    ⟨"windows_1257",
      "cp1257",
      .page
      ("€�‚�„…†‡�‰�‹�¨ˇ¸�‘’“”•–—�™�›�¯˛�\u00a0�¢£¤�¦§Ø©Ŗ«¬\u00ad®Æ°±²³´µ¶·ø¹ŗ»¼½¾æĄĮĀĆÄÅ" ++
        "ĘĒČÉŹĖĢĶĪĻŠŃŅÓŌÕÖ×ŲŁŚŪÜŻŽßąįāćäåęēčéźėģķīļšńņóōõö÷ųłśūüżž˙")⟩,
    ⟨"windows_1258",
      "cp1258",
      .page
      ("€�‚ƒ„…†‡ˆ‰�‹Œ����‘’“”•–—˜™�›œ��Ÿ\u00a0¡¢£¤¥¦§¨©ª«¬\u00ad®¯°±²³´µ¶·¸¹º»¼½¾¿ÀÁÂĂÄÅ" ++
        "ÆÇÈÉÊË\u0300ÍÎÏĐÑ\u0309ÓÔƠÖ×ØÙÚÛÜƯ\u0303ßàáâăäåæçèéêë\u0301íîïđñ\u0323óôơö÷øùúûü" ++
        "ư₫ÿ")⟩,
    ⟨"cspc8codepage437 ibm437",
      "cp437",
      .page
      ("ÇüéâäàåçêëèïîìÄÅÉæÆôöòûùÿÖÜ¢£¥₧ƒáíóúñÑªº¿⌐¬½¼¡«»░▒▓│┤╡╢╖╕╣║╗╝╜╛┐└┴┬├─┼╞╟╚╔╩╦╠═╬╧" ++
        "╨╤╥╙╘╒╓╫╪┘┌█▄▌▐▀αßΓπΣσµτΦΘΩδ∞φε∩≡±≥≤⌠⌡÷≈°∙·√ⁿ²■\u00a0")⟩,
    ⟨"ansi_x3.4_1968 ansi_x3.4_1986 ansi_x3_4_1968 cp367 cp65001 csascii csiso2022jp " ++
      "ibm367 iso2022jp iso2022jp_1 iso2022jp_2 iso2022jp_2004 iso2022jp_3 iso2022jp_ext " ++
      "iso646_us iso_2022_jp iso_2022_jp_1 iso_2022_jp_2 iso_2022_jp_2004 iso_2022_jp_3 " ++
      "iso_2022_jp_ext iso_646.irv_1991 iso_ir_6 u8 us us_ascii utf utf8 utf8_ucs2 " ++
      "utf8_ucs4",
      "ascii iso2022_jp iso2022_jp_1 iso2022_jp_2 iso2022_jp_2004 iso2022_jp_3 " ++
      "iso2022_jp_ext utf_8 utf_8_sig", .page ""⟩,
    ⟨"cspc775baltic ibm775",
      "cp775",
      .page
      ("ĆüéāäģåćłēŖŗīŹÄÅÉæÆōöĢ¢ŚśÖÜø£Ø×¤ĀĪóŻżź”¦©®¬½¼Ł«»░▒▓│┤ĄČĘĖ╣║╗╝ĮŠ┐└┴┬├─┼ŲŪ╚╔╩╦╠═╬Ž" ++
        "ąčęėįšųūž┘┌█▄▌▐▀ÓßŌŃõÕµńĶķĻļņĒŅ’\u00ad±“¾¶§÷„°∙·¹³²■\u00a0")⟩,
    ⟨"cspc850multilingual ibm850",
      "cp850",
      .page
      ("ÇüéâäàåçêëèïîìÄÅÉæÆôöòûùÿÖÜø£Ø×ƒáíóúñÑªº¿®¬½¼¡«»░▒▓│┤ÁÂÀ©╣║╗╝¢¥┐└┴┬├─┼ãÃ╚╔╩╦╠═╬¤" ++
        "ðÐÊËÈıÍÎÏ┘┌█▄¦Ì▀ÓßÔÒõÕµþÞÚÛÙýÝ¯´\u00ad±‗¾¶§÷¸°¨·¹³²■\u00a0")⟩,
    ⟨"cspcp852 ibm852",
      "cp852",
      .page
      ("ÇüéâäůćçłëŐőîŹÄĆÉĹĺôöĽľŚśÖÜŤťŁ×čáíóúĄąŽžĘę¬źČş«»░▒▓│┤ÁÂĚŞ╣║╗╝Żż┐└┴┬├─┼Ăă╚╔╩╦╠═╬¤" ++
        "đĐĎËďŇÍÎě┘┌█▄ŢŮ▀ÓßÔŃńňŠšŔÚŕŰýÝţ´\u00ad˝˛ˇ˘§÷¸°¨˙űŘř■\u00a0")⟩,
    ⟨"csibm855 ibm855",
      "cp855",
      .page
      ("ђЂѓЃёЁєЄѕЅіІїЇјЈљЉњЊћЋќЌўЎџЏюЮъЪаАбБцЦдДеЕфФгГ«»░▒▓│┤хХиИ╣║╗╝йЙ┐└┴┬├─┼кК╚╔╩╦╠═╬¤" ++
        "лЛмМнНоОп┘┌█▄Пя▀ЯрРсСтТуУжЖвВьЬ№\u00adыЫзЗшШэЭщЩчЧ§■\u00a0")⟩,
    ⟨"csibm857 ibm857",
      "cp857",
      .page
      ("ÇüéâäàåçêëèïîıÄÅÉæÆôöòûùİÖÜø£ØŞşáíóúñÑĞğ¿®¬½¼¡«»░▒▓│┤ÁÂÀ©╣║╗╝¢¥┐└┴┬├─┼ãÃ╚╔╩╦╠═╬¤" ++
        "ºªÊËÈ�ÍÎÏ┘┌█▄¦Ì▀ÓßÔÒõÕµ�×ÚÛÙìÿ¯´\u00ad±�¾¶§÷¸°¨·¹³²■\u00a0")⟩,
    ⟨"csibm858 ibm858",
      "cp858",
      .page
      ("ÇüéâäàåçêëèïîìÄÅÉæÆôöòûùÿÖÜø£Ø×ƒáíóúñÑªº¿®¬½¼¡«»░▒▓│┤ÁÂÀ©╣║╗╝¢¥┐└┴┬├─┼ãÃ╚╔╩╦╠═╬¤" ++
        "ðÐÊËÈ€ÍÎÏ┘┌█▄¦Ì▀ÓßÔÒõÕµþÞÚÛÙýÝ¯´\u00ad±‗¾¶§÷¸°¨·¹³²■\u00a0")⟩,
    ⟨"csibm860 ibm860",
      "cp860",
      .page
      ("ÇüéâãàÁçêÊèÍÔìÃÂÉÀÈôõòÚùÌÕÜ¢£Ù₧ÓáíóúñÑªº¿Ò¬½¼¡«»░▒▓│┤╡╢╖╕╣║╗╝╜╛┐└┴┬├─┼╞╟╚╔╩╦╠═╬╧" ++
        "╨╤╥╙╘╒╓╫╪┘┌█▄▌▐▀αßΓπΣσµτΦΘΩδ∞φε∩≡±≥≤⌠⌡÷≈°∙·√ⁿ²■\u00a0")⟩,
    ⟨"cp_is csibm861 ibm861",
      "cp861",
      .page
      ("ÇüéâäàåçêëèÐðÞÄÅÉæÆôöþûÝýÖÜø£Ø₧ƒáíóúÁÍÓÚ¿⌐¬½¼¡«»░▒▓│┤╡╢╖╕╣║╗╝╜╛┐└┴┬├─┼╞╟╚╔╩╦╠═╬╧" ++
        "╨╤╥╙╘╒╓╫╪┘┌█▄▌▐▀αßΓπΣσµτΦΘΩδ∞φε∩≡±≥≤⌠⌡÷≈°∙·√ⁿ²■\u00a0")⟩,
    ⟨"cspc862latinhebrew ibm862",
      "cp862",
      .page
      ("\u05d0\u05d1\u05d2\u05d3\u05d4\u05d5\u05d6\u05d7\u05d8\u05d9\u05da\u05db\u05dc" ++
        "\u05dd\u05de\u05df\u05e0\u05e1\u05e2\u05e3\u05e4\u05e5\u05e6\u05e7\u05e8\u05e9" ++
        "\u05ea¢£¥₧ƒáíóúñÑªº¿⌐¬½¼¡«»░▒▓│┤╡╢╖╕╣║╗╝╜╛┐└┴┬├─┼╞╟╚╔╩╦╠═╬╧╨╤╥╙╘╒╓╫╪┘┌█▄▌▐▀αßΓπΣ" ++
        "σµτΦΘΩδ∞φε∩≡±≥≤⌠⌡÷≈°∙·√ⁿ²■\u00a0")⟩,
    ⟨"csibm863 ibm863",
      "cp863",
      .page
      ("ÇüéâÂà¶çêëèïî‗À§ÉÈÊôËÏûù¤ÔÜ¢£ÙÛƒ¦´óú¨¸³¯Î⌐¬½¼¾«»░▒▓│┤╡╢╖╕╣║╗╝╜╛┐└┴┬├─┼╞╟╚╔╩╦╠═╬╧" ++
        "╨╤╥╙╘╒╓╫╪┘┌█▄▌▐▀αßΓπΣσµτΦΘΩδ∞φε∩≡±≥≤⌠⌡÷≈°∙·√ⁿ²■\u00a0")⟩
  ]

def morePages : List CodePage :=
  [
    ⟨"csibm865 ibm865",
      "cp865",
      .page
      ("ÇüéâäàåçêëèïîìÄÅÉæÆôöòûùÿÖÜø£Ø₧ƒáíóúñÑªº¿⌐¬½¼¡«¤░▒▓│┤╡╢╖╕╣║╗╝╜╛┐└┴┬├─┼╞╟╚╔╩╦╠═╬╧" ++
        "╨╤╥╙╘╒╓╫╪┘┌█▄▌▐▀αßΓπΣσµτΦΘΩδ∞φε∩≡±≥≤⌠⌡÷≈°∙·√ⁿ²■\u00a0")⟩,
    ⟨"csibm866 ibm866",
      "cp866",
      .page
      ("АБВГДЕЖЗИЙКЛМНОПРСТУФХЦЧШЩЪЫЬЭЮЯабвгдежзийклмноп░▒▓│┤╡╢╖╕╣║╗╝╜╛┐└┴┬├─┼╞╟╚╔╩╦╠═╬╧" ++
        "╨╤╥╙╘╒╓╫╪┘┌█▄▌▐▀рстуфхцчшщъыьэюяЁёЄєЇїЎў°∙·√№¤■\u00a0")⟩,
    ⟨"cp_gr csibm869 ibm869",
      "cp869",
      .page
      ("������Ά�·¬¦‘’Έ―ΉΊΪΌ��ΎΫ©Ώ²³ά£έήίϊΐόύΑΒΓΔΕΖΗ½ΘΙ«»░▒▓│┤ΚΛΜΝ╣║╗╝ΞΟ┐└┴┬├─┼ΠΡ╚╔╩╦╠═╬Σ" ++
        "ΤΥΦΧΨΩαβγ┘┌█▄δε▀ζηθικλμνξοπρσςτ΄\u00ad±υφχ§ψ΅°¨ωϋΰώ■\u00a0")⟩,
    ⟨"cp819 csisolatin1 ibm819 iso8859 iso8859_1 iso_8859_1 iso_8859_1_1987 iso_ir_100 " ++
      "l1 latin latin1",
      "charmap latin_1 raw_unicode_escape unicode_escape",
      .latinPage
      ("\u00a0¡¢£¤¥¦§¨©ª«¬\u00ad®¯°±²³´µ¶·¸¹º»¼½¾¿ÀÁÂÃÄÅÆÇÈÉÊËÌÍÎÏÐÑÒÓÔÕÖ×ØÙÚÛÜÝÞßàáâãäå" ++
        "æçèéêëìíîïðñòóôõö÷øùúûüýþÿ")⟩,
    ⟨"arabic asmo_708 csisolatinarabic ecma_114 iso_8859_6 iso_8859_6_1987 iso_ir_127",
      "iso8859_6",
      .latinPage
      ("\u00a0���¤�������،\u00ad�������������\u061b���\u061f�\u0621\u0622\u0623\u0624" ++
        "\u0625\u0626\u0627\u0628\u0629\u062a\u062b\u062c\u062d\u062e\u062f\u0630\u0631" ++
        "\u0632\u0633\u0634\u0635\u0636\u0637\u0638\u0639\u063a�����\u0640\u0641\u0642" ++
        "\u0643\u0644\u0645\u0646\u0647\u0648\u0649\u064a\u064b\u064c\u064d\u064e\u064f" ++
        "\u0650\u0651\u0652�������������")⟩,
    ⟨"",
      "cp1006",
      .latinPage
      ("\u00a0۰۱۲۳۴۵۶۷۸۹،\u061b\u00ad\u061f\ufe81\ufe8d\ufe8e\ufe8e\ufe8f\ufe91\ufb56" ++
        "\ufb58\ufe93\ufe95\ufe97\ufb66\ufb68\ufe99\ufe9b\ufe9d\ufe9f\ufb7a\ufb7c\ufea1" ++
        "\ufea3\ufea5\ufea7\ufea9\ufb84\ufeab\ufead\ufb8c\ufeaf\ufb8a\ufeb1\ufeb3\ufeb5" ++
        "\ufeb7\ufeb9\ufebb\ufebd\ufebf\ufec1\ufec5\ufec9\ufeca\ufecb\ufecc\ufecd\ufece" ++
        "\ufecf\ufed0\ufed1\ufed3\ufed5\ufed7\ufed9\ufedb\ufb92\ufb94\ufedd\ufedf\ufee0" ++
        "\ufee1\ufee3\ufb9e\ufee5\ufee7\ufe85\ufeed\ufba6\ufba8\ufba9\ufbaa\ufe80\ufe89" ++
        "\ufe8a\ufe8b\ufef1\ufef2\ufef3\ufbb0\ufbae\ufe7c\ufe7d")⟩,
    ⟨"cp1051 ibm1051 r8 roman8",
      "hp_roman8",
      .latinPage
      ("\u00a0ÀÂÈÊËÎÏ´ˋˆ¨˜ÙÛ₤¯Ýý°ÇçÑñ¡¿¤£¥§ƒ¢âêôûáéóúàèòùäëöüÅîØÆåíøæÄìÖÜÉïßÔÁÃãÐðÍÌÓÒÕõ" ++
        "ŠšÚŸÿÞþ·µ¶¾—¼½ªº«■»±�")⟩,
    ⟨"cp154 csptcp154 cyrillic_asian pt154",
      "ptcp154",
      .page
      ("ҖҒӮғ„…ҶҮҲүҠӢҢҚҺҸҗ‘’“”•–—ҳҷҡӣңқһҹ\u00a0ЎўЈӨҘҰ§Ё©Ә«¬ӯ®Ҝ°ұІіҙө¶·ё№ә»јҪҫҝАБВГДЕЖЗИЙК" ++
        "ЛМНОПРСТУФХЦЧШЩЪЫЬЭЮЯабвгдежзийклмнопрстуфхцчшщъыьэюя")⟩,
    ⟨"",
      "cp720",
      .page
      ("\u0080\u0081éâ\u0084à\u0086çêëèïî\u008d\u008e\u008f\u0090\u0651\u0652ô¤\u0640ûù" ++
        "\u0621\u0622\u0623\u0624£\u0625\u0626\u0627\u0628\u0629\u062a\u062b\u062c\u062d" ++
        "\u062e\u062f\u0630\u0631\u0632\u0633\u0634\u0635«»░▒▓│┤╡╢╖╕╣║╗╝╜╛┐└┴┬├─┼╞╟╚╔╩╦╠═" ++
        "╬╧╨╤╥╙╘╒╓╫╪┘┌█▄▌▐▀\u0636\u0637\u0638\u0639\u063a\u0641µ\u0642\u0643\u0644\u0645" ++
        "\u0646\u0647\u0648\u0649\u064a≡\u064b\u064c\u064d\u064e\u064f\u0650≈°∙·√ⁿ²■" ++
        "\u00a0")⟩,
    ⟨"",
      "cp737",
      .page
      ("ΑΒΓΔΕΖΗΘΙΚΛΜΝΞΟΠΡΣΤΥΦΧΨΩαβγδεζηθικλμνξοπρσςτυφχψ░▒▓│┤╡╢╖╕╣║╗╝╜╛┐└┴┬├─┼╞╟╚╔╩╦╠═╬╧" ++
        "╨╤╥╙╘╒╓╫╪┘┌█▄▌▐▀ωάέήϊίόύϋώΆΈΉΊΌΎΏ±≥≤ΪΫ÷≈°∙·√ⁿ²■\u00a0")⟩,
    ⟨"",
      "cp856",
      .page
      ("\u05d0\u05d1\u05d2\u05d3\u05d4\u05d5\u05d6\u05d7\u05d8\u05d9\u05da\u05db\u05dc" ++
        "\u05dd\u05de\u05df\u05e0\u05e1\u05e2\u05e3\u05e4\u05e5\u05e6\u05e7\u05e8\u05e9" ++
        "\u05ea�£�×����������®¬½¼�«»░▒▓│┤���©╣║╗╝¢¥┐└┴┬├─┼��╚╔╩╦╠═╬¤���������┘┌█▄¦�▀�����" ++
        "�µ�������¯´\u00ad±‗¾¶§÷¸°¨·¹³²■\u00a0")⟩,
    ⟨"",
      "cp874",
      .page
      ("€����…�����������‘’“”•–—��������\u00a0กขฃคฅฆงจฉชซฌญฎฏฐฑฒณดตถทธนบปผฝพฟภมยรฤลฦวศษส" ++
        "หฬอฮฯะ\u0e31าำ\u0e34\u0e35\u0e36\u0e37\u0e38\u0e39\u0e3a����฿เแโใไๅๆ\u0e47\u0e48" ++
        "\u0e49\u0e4a\u0e4b\u0e4c\u0e4d\u0e4e๏๐๑๒๓๔๕๖๗๘๙๚๛����")⟩,
    ⟨"csisolatin2 iso_8859_2 iso_8859_2_1987 iso_ir_101 l2 latin2",
      "iso8859_2",
      .latinPage
      ("\u00a0Ą˘Ł¤ĽŚ§¨ŠŞŤŹ\u00adŽŻ°ą˛ł´ľśˇ¸šşťź˝žżŔÁÂĂÄĹĆÇČÉĘËĚÍÎĎĐŃŇÓÔŐÖ×ŘŮÚŰÜÝŢßŕáâăäĺ" ++
        "ćçčéęëěíîďđńňóôőö÷řůúűüýţ˙")⟩,
    ⟨"csisolatin3 iso_8859_3 iso_8859_3_1988 iso_ir_109 l3 latin3",
      "iso8859_3",
      .latinPage
      ("\u00a0Ħ˘£¤�Ĥ§¨İŞĞĴ\u00ad�Ż°ħ²³´µĥ·¸ışğĵ½�żÀÁÂ�ÄĊĈÇÈÉÊËÌÍÎÏ�ÑÒÓÔĠÖ×ĜÙÚÛÜŬŜßàáâ�äċ" ++
        "ĉçèéêëìíîï�ñòóôġö÷ĝùúûüŭŝ˙")⟩,
    ⟨"csisolatin4 iso_8859_4 iso_8859_4_1988 iso_ir_110 l4 latin4",
      "iso8859_4",
      .latinPage
      ("\u00a0ĄĸŖ¤ĨĻ§¨ŠĒĢŦ\u00adŽ¯°ą˛ŗ´ĩļˇ¸šēģŧŊžŋĀÁÂÃÄÅÆĮČÉĘËĖÍÎĪĐŅŌĶÔÕÖ×ØŲÚÛÜŨŪßāáâãäå" ++
        "æįčéęëėíîīđņōķôõö÷øųúûüũū˙")⟩,
    ⟨"csisolatin5 iso_8859_9 iso_8859_9_1989 iso_ir_148 l5 latin5",
      "iso8859_9",
      .latinPage
      ("\u00a0¡¢£¤¥¦§¨©ª«¬\u00ad®¯°±²³´µ¶·¸¹º»¼½¾¿ÀÁÂÃÄÅÆÇÈÉÊËÌÍÎÏĞÑÒÓÔÕÖ×ØÙÚÛÜİŞßàáâãäå" ++
        "æçèéêëìíîïğñòóôõö÷øùúûüışÿ")⟩,
    ⟨"csisolatin6 iso_8859_10 iso_8859_10_1992 iso_ir_157 l6 latin6",
      "iso8859_10",
      .latinPage
      ("\u00a0ĄĒĢĪĨĶ§ĻĐŠŦŽ\u00adŪŊ°ąēģīĩķ·ļđšŧž―ūŋĀÁÂÃÄÅÆĮČÉĘËĖÍÎÏÐŅŌÓÔÕÖŨØŲÚÛÜÝÞßāáâãäå" ++
        "æįčéęëėíîïðņōóôõöũøųúûüýþĸ")⟩,
    ⟨"csisolatincyrillic cyrillic iso_8859_5 iso_8859_5_1988 iso_ir_144",
      "iso8859_5",
      .latinPage
      ("\u00a0ЁЂЃЄЅІЇЈЉЊЋЌ\u00adЎЏАБВГДЕЖЗИЙКЛМНОПРСТУФХЦЧШЩЪЫЬЭЮЯабвгдежзийклмнопрстуфх" ++
        "цчшщъыьэюя№ёђѓєѕіїјљњћќ§ўџ")⟩,
    ⟨"csisolatingreek ecma_118 elot_928 greek greek8 iso_8859_7 iso_8859_7_1987 " ++
      "iso_ir_126",
      "iso8859_7",
      .latinPage
      ("\u00a0‘’£€₯¦§¨©ͺ«¬\u00ad�―°±²³΄΅Ά·ΈΉΊ»Ό½ΎΏΐΑΒΓΔΕΖΗΘΙΚΛΜΝΞΟΠΡ�ΣΤΥΦΧΨΩΪΫάέήίΰαβγδε" ++
        "ζηθικλμνξοπρςστυφχψωϊϋόύώ�")⟩,
    ⟨"csisolatinhebrew hebrew iso_8859_8 iso_8859_8_1988 iso_ir_138",
      "iso8859_8",
      .latinPage
      ("\u00a0�¢£¤¥¦§¨©×«¬\u00ad®¯°±²³´µ¶·¸¹÷»¼½¾��������������������������������‗\u05d0" ++
        "\u05d1\u05d2\u05d3\u05d4\u05d5\u05d6\u05d7\u05d8\u05d9\u05da\u05db\u05dc\u05dd" ++
        "\u05de\u05df\u05e0\u05e1\u05e2\u05e3\u05e4\u05e5\u05e6\u05e7\u05e8\u05e9\u05ea��" ++
        "\u200e\u200f�")⟩,
    ⟨"cskoi8r",
      "koi8_r",
      .page
      ("─│┌┐└┘├┤┬┴┼▀▄█▌▐░▒▓⌠■∙√≈≤≥\u00a0⌡°²·÷═║╒ё╓╔╕╖╗╘╙╚╛╜╝╞╟╠╡Ё╢╣╤╥╦╧╨╩╪╫╬©юабцдефгхий" ++
        "клмнопярстужвьызшэщчъЮАБЦДЕФГХИЙКЛМНОПЯРСТУЖВЬЫЗШЭЩЧЪ")⟩,
    ⟨"hz_gb hz_gb_2312 hzgb",
      "hz", .asciiWithout '~'⟩
  ]

/-- The code pages by name, last part, and the encodings that are none. -/
def lastPages : List CodePage :=
  [
    ⟨"iso_8859_11 iso_8859_11_2001 thai",
      "iso8859_11",
      .latinPage
      ("\u00a0กขฃคฅฆงจฉชซฌญฎฏฐฑฒณดตถทธนบปผฝพฟภมยรฤลฦวศษสหฬอฮฯะ\u0e31าำ\u0e34\u0e35\u0e36" ++
        "\u0e37\u0e38\u0e39\u0e3a����฿เแโใไๅๆ\u0e47\u0e48\u0e49\u0e4a\u0e4b\u0e4c\u0e4d" ++
        "\u0e4e๏๐๑๒๓๔๕๖๗๘๙๚๛����")⟩,
    ⟨"iso_8859_13 l7 latin7",
      "iso8859_13",
      .latinPage
      ("\u00a0”¢£¤„¦§Ø©Ŗ«¬\u00ad®Æ°±²³“µ¶·ø¹ŗ»¼½¾æĄĮĀĆÄÅĘĒČÉŹĖĢĶĪĻŠŃŅÓŌÕÖ×ŲŁŚŪÜŻŽßąįāćäå" ++
        "ęēčéźėģķīļšńņóōõö÷ųłśūüżž’")⟩,
    ⟨"iso_8859_14 iso_8859_14_1998 iso_celtic iso_ir_199 l8 latin8",
      "iso8859_14",
      .latinPage
      ("\u00a0Ḃḃ£ĊċḊ§Ẁ©ẂḋỲ\u00ad®ŸḞḟĠġṀṁ¶ṖẁṗẃṠỳẄẅṡÀÁÂÃÄÅÆÇÈÉÊËÌÍÎÏŴÑÒÓÔÕÖṪØÙÚÛÜÝŶßàáâãäå" ++
        "æçèéêëìíîïŵñòóôõöṫøùúûüýŷÿ")⟩,
    ⟨"iso_8859_15 l9 latin9",
      "iso8859_15",
      .latinPage
      ("\u00a0¡¢£€¥Š§š©ª«¬\u00ad®¯°±²³Žµ¶·ž¹º»ŒœŸ¿ÀÁÂÃÄÅÆÇÈÉÊËÌÍÎÏÐÑÒÓÔÕÖ×ØÙÚÛÜÝÞßàáâãäå" ++
        "æçèéêëìíîïðñòóôõö÷øùúûüýþÿ")⟩,
    ⟨"iso_8859_16 iso_8859_16_2001 iso_ir_226 l10 latin10",
      "iso8859_16",
      .latinPage
      ("\u00a0ĄąŁ€„Š§š©Ș«Ź\u00adźŻ°±ČłŽ”¶·žčș»ŒœŸżÀÁÂĂÄĆÆÇÈÉÊËÌÍÎÏĐŃÒÓÔŐÖŚŰÙÚÛÜĘȚßàáâăäć" ++
        "æçèéêëìíîïđńòóôőöśűùúûüęțÿ")⟩,
    ⟨"iso_ir_166 tis620 tis_620_0 tis_620_2529_0 tis_620_2529_1",
      "tis_620",
      .latinPage
      ("�กขฃคฅฆงจฉชซฌญฎฏฐฑฒณดตถทธนบปผฝพฟภมยรฤลฦวศษสหฬอฮฯะ\u0e31าำ\u0e34\u0e35\u0e36" ++
        "\u0e37\u0e38\u0e39\u0e3a����฿เแโใไๅๆ\u0e47\u0e48\u0e49\u0e4a\u0e4b\u0e4c\u0e4d" ++
        "\u0e4e๏๐๑๒๓๔๕๖๗๘๙๚๛����")⟩,
    ⟨"",
      "koi8_t",
      .page
      ("қғ‚Ғ„…†‡�‰ҳ‹ҲҷҶ�Қ‘’“”•–—�™�›�����ӯӮё¤ӣ¦§���«¬\u00ad®�°±²Ё�Ӣ¶·�№�»���©юабцдефгхий" ++
        "клмнопярстужвьызшэщчъЮАБЦДЕФГХИЙКЛМНОПЯРСТУЖВЬЫЗШЭЩЧЪ")⟩,
    ⟨"",
      "koi8_u",
      .page
      ("─│┌┐└┘├┤┬┴┼▀▄█▌▐░▒▓⌠■∙√≈≤≥\u00a0⌡°²·÷═║╒ёє╔ії╗╘╙╚╛ґ╝╞╟╠╡ЁЄ╣ІЇ╦╧╨╩╪Ґ╬©юабцдефгхий" ++
        "клмнопярстужвьызшэщчъЮАБЦДЕФГХИЙКЛМНОПЯРСТУЖВЬЫЗШЭЩЧЪ")⟩,
    ⟨"kz_1048 rk1048 strk1048_2002",
      "kz1048",
      .page
      ("ЂЃ‚ѓ„…†‡€‰Љ‹ЊҚҺЏђ‘’“”•–—�™љ›њқһџ\u00a0ҰұӘ¤Ө¦§Ё©Ғ«¬\u00ad®Ү°±Ііөµ¶·ё№ғ»әҢңүАБВГДЕ" ++
        "ЖЗИЙКЛМНОПРСТУФХЦЧШЩЪЫЬЭЮЯабвгдежзийклмнопрстуфхцчшщъыьэюя")⟩,
    ⟨"mac_centeuro maccentraleurope maclatin2",
      "mac_latin2",
      .page
      ("ÄĀāÉĄÖÜáąČäčĆćéŹźĎíďĒēĖóėôöõúĚěü†°Ę£§•¶ß®©™ę¨≠ģĮįĪ≤≥īĶ∂∑łĻļĽľĹĺŅņŃ¬√ńŇ∆«»…\u00a0" ++
        "ňŐÕőŌ–—“”‘’÷◊ōŔŕŘ‹›řŖŗŠ‚„šŚśÁŤťÍŽžŪÓÔūŮÚůŰűŲųÝýķŻŁżĢˇ")⟩,
    ⟨"",
      "mac_croatian",
      .page
      ("ÄÅÇÉÑÖÜáàâäãåçéèêëíìîïñóòôöõúùûü†°¢£§•¶ß®Š™´¨≠ŽØ∞±≤≥∆µ∂∑∏š∫ªºΩžø¿¡¬√ƒ≈Ć«Č…\u00a0" ++
        "ÀÃÕŒœĐ—“”‘’÷◊\uf8ff©⁄€‹›Æ»–·‚„‰ÂćÁčÈÍÎÏÌÓÔđÒÚÛÙıˆ˜¯πË˚¸Êæˇ")⟩,
    ⟨"",
      "mac_romanian",
      .page
      ("ÄÅÇÉÑÖÜáàâäãåçéèêëíìîïñóòôöõúùûü†°¢£§•¶ß®©™´¨≠ĂȘ∞±≤≥¥µ∂∑∏π∫ªºΩăș¿¡¬√ƒ≈∆«»…\u00a0" ++
        "ÀÃÕŒœ–—“”‘’÷◊ÿŸ⁄€‹›Țț‡·‚„‰ÂÊÁËÈÍÎÏÌÓÔ\uf8ffÒÚÛÙıˆ˜¯˘˙˚¸˝˛ˇ")⟩,
    ⟨"maccyrillic",
      "mac_cyrillic",
      .page
      ("АБВГДЕЖЗИЙКЛМНОПРСТУФХЦЧШЩЪЫЬЭЮЯ†°Ґ£§•¶І®©™Ђђ≠Ѓѓ∞±≤≥іµґЈЄєЇїЉљЊњјЅ¬√ƒ≈∆«»…\u00a0" ++
        "ЋћЌќѕ–—“”‘’÷„ЎўЏџ№Ёёяабвгдежзийклмнопрстуфхцчшщъыьэю€")⟩,
    ⟨"macgreek",
      "mac_greek",
      .page
      ("Ä¹²É³ÖÜ΅àâä΄¨çéèêë£™îï•½‰ôö¦€ùûü†ΓΔΘΛΞΠß®©ΣΪ§≠°·Α±≤≥¥ΒΕΖΗΙΚΜΦΫΨΩάΝ¬ΟΡ≈Τ«»…\u00a0" ++
        "ΥΧΆΈœ–―“”‘’÷ΉΊΌΎέήίόΏύαβψδεφγηιξκλμνοπώρστθωςχυζϊϋΐΰ\u00ad")⟩,
    ⟨"maciceland",
      "mac_iceland",
      .page
      ("ÄÅÇÉÑÖÜáàâäãåçéèêëíìîïñóòôöõúùûüÝ°¢£§•¶ß®©™´¨≠ÆØ∞±≤≥¥µ∂∑∏π∫ªºΩæø¿¡¬√ƒ≈∆«»…\u00a0" ++
        "ÀÃÕŒœ–—“”‘’÷◊ÿŸ⁄€ÐðÞþý·‚„‰ÂÊÁËÈÍÎÏÌÓÔ\uf8ffÒÚÛÙıˆ˜¯˘˙˚¸˝˛ˇ")⟩,
    ⟨"macintosh macroman",
      "mac_roman",
      .page
      ("ÄÅÇÉÑÖÜáàâäãåçéèêëíìîïñóòôöõúùûü†°¢£§•¶ß®©™´¨≠ÆØ∞±≤≥¥µ∂∑∏π∫ªºΩæø¿¡¬√ƒ≈∆«»…\u00a0" ++
        "ÀÃÕŒœ–—“”‘’÷◊ÿŸ⁄€‹›ﬁﬂ‡·‚„‰ÂÊÁËÈÍÎÏÌÓÔ\uf8ffÒÚÛÙıˆ˜¯˘˙˚¸˝˛ˇ")⟩,
    ⟨"macturkish",
      "mac_turkish",
      .page
      ("ÄÅÇÉÑÖÜáàâäãåçéèêëíìîïñóòôöõúùûü†°¢£§•¶ß®©™´¨≠ÆØ∞±≤≥¥µ∂∑∏π∫ªºΩæø¿¡¬√ƒ≈∆«»…\u00a0" ++
        "ÀÃÕŒœ–—“”‘’÷◊ÿŸĞğİıŞş‡·‚„‰ÂÊÁËÈÍÎÏÌÓÔ\uf8ffÒÚÛÙ\uf8a0ˆ˜¯˘˙˚¸˝˛ˇ")⟩,
    ⟨"",
      "palmos",
      .page
      ("€\u0081‚ƒ„…†‡ˆ‰Š‹Œ♦♣♥♠‘’“”•–—˜™š\u009bœ\u009d\u009eŸ\u00a0¡¢£¤¥¦§¨©ª«¬\u00ad®¯°±" ++
        "²³´µ¶·¸¹º»¼½¾¿ÀÁÂÃÄÅÆÇÈÉÊËÌÍÎÏÐÑÒÓÔÕÖ×ØÙÚÛÜÝÞßàáâãäåæçèéêëìíîïðñòóôõö÷øùúûüýþÿ")⟩,
    ⟨"big5_hkscs big5_tw chinese cp1361 cp936 csbig5 csiso2022kr csiso58gb231280 " ++
      "csshiftjis euc_cn euc_jis2004 euccn eucgb2312_cn eucjis2004 eucjisx0213 eucjp " ++
      "euckr gb18030_2000 gb2312_1980 gb2312_80 hkscs iso2022kr iso_2022_kr iso_ir_58 " ++
      "jisx0213 korean ks_c_5601 ks_c_5601_1987 ks_x_1001 ksc5601 ksx1001 ms1361 ms932 " ++
      "ms936 ms949 ms950 ms_kanji mskanji s_jis s_jis_2004 s_jisx0213 shiftjis " ++
      "shiftjis2004 shiftjisx0213 sjis sjis_2004 sjisx0213 u16 u32 u7 u_jis uhc ujis " ++
      "unicode_1_1_utf_7 unicodebigunmarked unicodelittleunmarked utf16 utf32 utf7 " ++
      "utf_16be utf_16le utf_32be utf_32le x_mac_japanese x_mac_korean x_mac_simp_chinese " ++
      "x_mac_trad_chinese",
      "big5 big5hkscs cp932 cp949 cp950 euc_jis_2004 euc_jisx0213 euc_jp euc_kr gb18030 " ++
      "gb2312 gbk iso2022_kr johab shift_jis shift_jis_2004 shift_jisx0213 utf_16 " ++
      "utf_16_be utf_16_le utf_32 utf_32_be utf_32_le utf_7", .multiOctet⟩,
    ⟨"base64 base_64 bz2 hex quopri quoted_printable quotedprintable rot13 uu zip zlib",
      "base64_codec bz2_codec hex_codec quopri_codec rot_13 uu_codec zlib_codec", .notText⟩,
    ⟨"",
      "idna", .labels⟩,
    ⟨"",
      "undefined", .void⟩,
    ⟨"",
      "punycode", .asciiOnly⟩,
    ⟨"csibm037 ebcdic_cp_ca ebcdic_cp_nl ebcdic_cp_us ebcdic_cp_wt ibm037 ibm039 " ++
      "csibm1026 ibm1026 ibm1140 csibm273 ibm273 csibm424 ebcdic_cp_he ibm424 csibm500 " ++
      "ebcdic_cp_be ebcdic_cp_ch ibm500 csibm864 ibm864",
      "cp037 cp1026 cp1140 cp273 cp424 cp500 cp864 cp875 mac_arabic mac_farsi", .unfit⟩
  ]

def all : List CodePage :=
  firstPages ++ morePages ++ lastPages

end CodePage
end Xml
end EngineClient
