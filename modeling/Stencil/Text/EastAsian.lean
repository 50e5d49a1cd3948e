import Stencil.Text.EastAsian.Switched
import Stencil.Text.EastAsian.Taiwan

/-!
# Encodings of East Asia

- `EastAsian.codings`: the encodings with their names.
-/

namespace Stencil.Text

namespace EastAsian

/-- The text of bytes in each encoding, with its names, the proper name first. -/
def codings : List (List String × (List UInt8 → Decoded)) := [
  (["gb2312", "chinese", "csiso58gb231280", "euc_cn", "euccn", "eucgb2312_cn", "gb2312_1980",
    "gb2312_80", "iso_ir_58", "x_mac_simp_chinese"],
    decodeBy "gb2312" (pairHead oldest?)),
  (["gbk", "936", "cp936", "ms936"],
    decodeBy "gbk" (pairHead extended?)),
  (["gb18030", "gb18030_2000"],
    decodeBy "gb18030" newestHead),
  (["hz", "hz_gb", "hz_gb_2312", "hzgb"],
    decodeFrom "hz" tildeHead false 0 0),
  (["big5", "big5_tw", "csbig5", "x_mac_trad_chinese"],
    decodeBy "big5" (pairHead traditional?)),
  (["cp950", "950", "ms950"],
    decodeBy "cp950" (pairHead traditionalVendor?)),
  (["big5hkscs", "big5_hkscs", "hkscs"],
    decodeBy "big5hkscs" hongKongHead),
  (["euc_kr", "euckr", "korean", "ks_c_5601", "ks_c_5601_1987", "ks_x_1001", "ksc5601", "ksx1001",
    "x_mac_korean"],
    decodeBy "euc_kr" koreanHead),
  (["cp949", "949", "ms949", "uhc"],
    decodeBy "cp949" (pairHead unified?)),
  (["johab", "cp1361", "ms1361"],
    decodeBy "johab" (pairHead combined?)),
  (["shift_jis", "csshiftjis", "s_jis", "shiftjis", "sjis", "x_mac_japanese"],
    decodeBy "shift_jis" shiftedHead),
  (["cp932", "932", "ms932", "ms_kanji", "mskanji"],
    decodeBy "cp932" shiftedVendorHead),
  (["euc_jp", "eucjp", "u_jis", "ujis"],
    decodeBy "euc_jp" unshiftedHead),
  (["shift_jisx0213", "s_jisx0213", "shiftjisx0213", "sjisx0213"],
    decodeBy "shift_jisx0213" (Edition.shiftedHead .first)),
  (["shift_jis_2004", "s_jis_2004", "shiftjis2004", "sjis_2004"],
    decodeBy "shift_jis_2004" (Edition.shiftedHead .revised)),
  (["euc_jisx0213", "eucjisx0213"],
    decodeBy "euc_jisx0213" (Edition.unshiftedHead .first)),
  (["euc_jis_2004", "euc_jis2004", "eucjis2004", "jisx0213"],
    decodeBy "euc_jis_2004" (Edition.unshiftedHead .revised))]
    ++ Switching.all.map fun c => (c.1, c.2.decode)

end EastAsian

end Stencil.Text
