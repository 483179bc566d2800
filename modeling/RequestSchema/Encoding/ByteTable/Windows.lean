import RequestSchema.Encoding.ByteTable

set_option autoImplicit false

/-!
# Code pages of Windows
-/

namespace RequestSchema

def ByteTable.windows : List ByteTable := [
  ⟨"cp1250", ["1250", "windows_1250"],
    [(0x80, "€"), (0x82, "‚"), (0x84, "„…†‡"), (0x89, "‰Š‹ŚŤŽŹ"), (0x91, "‘’“”•–—"),
      (0x99, "™š›śťžź\xa0\u02c7˘Ł¤Ą¦§¨©Ş«¬\xad®Ż°±˛ł´µ¶·¸ąş»Ľ˝ľżŔÁÂĂÄĹĆÇČÉĘËĚÍÎĎĐŃŇÓÔŐÖ×ŘŮÚ"),
      (0xDB, "ŰÜÝŢßŕáâăäĺćçčéęëěíîďđńňóôőö÷řůúűüýţ˙")]⟩,
  ⟨"cp1251", ["1251", "windows_1251"],
    [(0x80, "ЂЃ‚ѓ„…†‡€‰Љ‹ЊЌЋЏђ‘’“”•–—"),
      (0x99, "™љ›њќћџ\xa0ЎўЈ¤Ґ¦§Ё©Є«¬\xad®Ї°±Ііґµ¶·ё№є»јЅѕїАБВГДЕЖЗИЙКЛМНОПРСТУФХЦЧШЩЪЫЬЭЮЯ"),
      (0xE0, "абвгдежзийклмнопрстуфхцчшщъыьэюя")]⟩,
  ⟨"cp1252", ["1252", "windows_1252"],
    [(0x80, "€"), (0x82, "‚ƒ„…†‡\u02c6‰Š‹Œ"), (0x8E, "Ž"), (0x91, "‘’“”•–—˜™š›œ"),
      (0x9E, "žŸ\xa0¡¢£¤¥¦§¨©ª«¬\xad®¯°±²³´µ¶·¸¹º»¼½¾¿ÀÁÂÃÄÅÆÇÈÉÊËÌÍÎÏÐÑÒÓÔÕÖ×ØÙÚÛÜÝÞßàáâãä"),
      (0xE5, "åæçèéêëìíîïðñòóôõö÷øùúûüýþÿ")]⟩,
  ⟨"cp1253", ["1253", "windows_1253"],
    [(0x80, "€"), (0x82, "‚ƒ„…†‡"), (0x89, "‰"), (0x8B, "‹"), (0x91, "‘’“”•–—"), (0x99, "™"),
      (0x9B, "›"), (0xA0, "\xa0΅Ά£¤¥¦§¨©"), (0xAB, "«¬\xad®―°±²³΄µ¶·ΈΉΊ»Ό½ΎΏΐΑΒΓΔΕΖΗΘΙΚΛΜΝΞΟΠΡ"),
      (0xD3, "ΣΤΥΦΧΨΩΪΫάέήίΰαβγδεζηθικλμνξοπρςστυφχψωϊϋόύώ")]⟩,
  ⟨"cp1254", ["1254", "windows_1254"],
    [(0x80, "€"), (0x82, "‚ƒ„…†‡\u02c6‰Š‹Œ"), (0x91, "‘’“”•–—˜™š›œ"),
      (0x9F, "Ÿ\xa0¡¢£¤¥¦§¨©ª«¬\xad®¯°±²³´µ¶·¸¹º»¼½¾¿ÀÁÂÃÄÅÆÇÈÉÊËÌÍÎÏĞÑÒÓÔÕÖ×ØÙÚÛÜİŞßàáâãäå"),
      (0xE6, "æçèéêëìíîïğñòóôõö÷øùúûüışÿ")]⟩,
  ⟨"cp1255", ["1255", "windows_1255"],
    [(0x80, "€"), (0x82, "‚ƒ„…†‡\u02c6‰"), (0x8B, "‹"), (0x91, "‘’“”•–—˜™"), (0x9B, "›"),
      (0xA0, "\xa0¡¢£₪¥¦§¨©×«¬\xad®¯°±²³´µ¶·¸¹÷»¼½¾¿\u05b0\u05b1\u05b2\u05b3\u05b4\u05b5"),
      (0xC6, "\u05b6\u05b7\u05b8\u05b9"),
      (0xCB, "\u05bb\u05bc\u05bd\u05be\u05bf\u05c0\u05c1\u05c2\u05c3\u05f0\u05f1\u05f2"),
      (0xD7, "\u05f3\u05f4"),
      (0xE0, "\u05d0\u05d1\u05d2\u05d3\u05d4\u05d5\u05d6\u05d7\u05d8\u05d9\u05da\u05db"),
      (0xEC, "\u05dc\u05dd\u05de\u05df\u05e0\u05e1\u05e2\u05e3\u05e4\u05e5\u05e6\u05e7"),
      (0xF8, "\u05e8\u05e9\u05ea"), (0xFD, "\u200e\u200f")]⟩,
  ⟨"cp1256", ["1256", "windows_1256"],
    [(0x80, "€\u067e‚ƒ„…†‡\u02c6‰\u0679‹Œ\u0686\u0698\u0688\u06af‘’“”•–—\u06a9™\u0691›œ"),
      (0x9D, "\u200c\u200d\u06ba\xa0،¢£¤¥¦§¨©\u06be«¬\xad®¯°±²³´µ¶·¸¹\u061b»¼½¾\u061f\u06c1"),
      (0xC1, "\u0621\u0622\u0623\u0624\u0625\u0626\u0627\u0628\u0629\u062a\u062b\u062c"),
      (0xCD, "\u062d\u062e\u062f\u0630\u0631\u0632\u0633\u0634\u0635\u0636×\u0637\u0638"),
      (0xDA, "\u0639\u063a\u0640\u0641\u0642\u0643à\u0644â\u0645\u0646\u0647\u0648çèéêë"),
      (0xEC, "\u0649\u064aîï\u064b\u064c\u064d\u064eô\u064f\u0650÷\u0651ù\u0652ûü\u200e"),
      (0xFE, "\u200f\u06d2")]⟩,
  ⟨"cp1257", ["1257", "windows_1257"],
    [(0x80, "€"), (0x82, "‚"), (0x84, "„…†‡"), (0x89, "‰"), (0x8B, "‹"), (0x8D, "¨\u02c7¸"),
      (0x91, "‘’“”•–—"), (0x99, "™"), (0x9B, "›"), (0x9D, "¯˛"), (0xA0, "\xa0"), (0xA2, "¢£¤"),
      (0xA6, "¦§Ø©Ŗ«¬\xad®Æ°±²³´µ¶·ø¹ŗ»¼½¾æĄĮĀĆÄÅĘĒČÉŹĖĢĶĪĻŠŃŅÓŌÕÖ×ŲŁŚŪÜŻŽßąįāćäåęēčéźėģķīļ"),
      (0xF0, "šńņóōõö÷ųłśūüżž˙")]⟩,
  ⟨"cp1258", ["1258", "windows_1258"],
    [(0x80, "€"), (0x82, "‚ƒ„…†‡\u02c6‰"), (0x8B, "‹Œ"), (0x91, "‘’“”•–—˜™"), (0x9B, "›œ"),
      (0x9F, "Ÿ\xa0¡¢£¤¥¦§¨©ª«¬\xad®¯°±²³´µ¶·¸¹º»¼½¾¿ÀÁÂĂÄÅÆÇÈÉÊË\u0300ÍÎÏĐÑ\u0309ÓÔƠÖ×ØÙÚÛ"),
      (0xDC, "ÜƯ\u0303ßàáâăäåæçèéêë\u0301íîïđñ\u0323óôơö÷øùúûüư₫ÿ")]⟩,
  ⟨"cp874", [],
    [(0x80, "€"), (0x85, "…"), (0x91, "‘’“”•–—"),
      (0xA0, "\xa0กขฃคฅฆงจฉชซฌญฎฏฐฑฒณดตถทธนบปผฝพฟภมยรฤลฦวศษสหฬอฮฯะ\u0e31าำ\u0e34\u0e35"),
      (0xD6, "\u0e36\u0e37\u0e38\u0e39\u0e3a"),
      (0xDF, "฿เแโใไๅ\u0e46\u0e47\u0e48\u0e49\u0e4a\u0e4b\u0e4c\u0e4d\u0e4e๏๐๑๒๓๔๕๖๗๘๙๚๛")]⟩,
  ⟨"kz1048", ["kz_1048", "rk1048", "strk1048_2002"],
    [(0x80, "ЂЃ‚ѓ„…†‡€‰Љ‹ЊҚҺЏђ‘’“”•–—"),
      (0x99, "™љ›њқһџ\xa0ҰұӘ¤Ө¦§Ё©Ғ«¬\xad®Ү°±Ііөµ¶·ё№ғ»әҢңүАБВГДЕЖЗИЙКЛМНОПРСТУФХЦЧШЩЪЫЬЭЮЯ"),
      (0xE0, "абвгдежзийклмнопрстуфхцчшщъыьэюя")]⟩,
  ⟨"ptcp154", ["csptcp154", "pt154", "cp154", "cyrillic_asian"],
    [(0x80, "ҖҒӮғ„…ҶҮҲүҠӢҢҚҺҸҗ‘’“”•–—ҳҷҡӣңқһҹ\xa0ЎўЈӨҘҰ§Ё©Ә«¬ӯ®Ҝ°ұІіҙө¶·ё№ә»јҪҫҝАБВГДЕЖЗИЙ"),
      (0xCA, "КЛМНОПРСТУФХЦЧШЩЪЫЬЭЮЯабвгдежзийклмнопрстуфхцчшщъыьэюя")]⟩,
  ⟨"palmos", [],
    [(0x80, "€\x81‚ƒ„…†‡\u02c6‰Š‹Œ♦♣♥♠‘’“”•–—˜™š\x9bœ\x9d\x9eŸ\xa0¡¢£¤¥¦§¨©ª«¬\xad®¯°±²³´µ"),
      (0xB6, "¶·¸¹º»¼½¾¿ÀÁÂÃÄÅÆÇÈÉÊËÌÍÎÏÐÑÒÓÔÕÖ×ØÙÚÛÜÝÞßàáâãäåæçèéêëìíîïðñòóôõö÷øùúûüýþÿ")]⟩]

end RequestSchema
