import RequestSchema.Encoding.CodeTable

set_option autoImplicit false

/-!
# The characters that GBK and GB 18030 add to GB 2312

Numbered by row and column, from 0 to 125 and from 0 to 189.
-/

namespace RequestSchema

/-- What GBK adds or has in other ways, apart from the unified ideographs. -/
def CodeTable.gbkSymbols : CodeTable :=
  [(6179, "·"), (6185, "—"), (6366, "ⅰⅱⅲⅳⅴⅵⅶⅷⅸⅹ"),
    (7189, "\ufe35\ufe36\ufe39\ufe3a\ufe3f\ufe40\ufe3d\ufe3e\ufe41\ufe42\ufe43\ufe44"),
    (7203, "\ufe3b\ufe3c\ufe37\ufe38\ufe31"), (7209, "\ufe33\ufe34"),
    (7410, "\u02ca\u02cb˙–―‥‵℅℉↖↗↘↙∕∟∣≒≦≧⊿═║╒╓╔╕╖╗╘╙╚╛╜╝╞╟╠╡╢╣╤╥╦╧╨╩╪╫╬╭╮╯╰╱╲╳▁▂▃▄▅▆▇█▉▊▋▌▍▎▏▓▔▕"),
    (7484, "▼▽◢◣◤◥☉⊕〒〝〞"), (7532, "ɑ"), (7534, "ńň"), (7537, "ɡ"),
    (7600, "〡〢〣〤〥〦〧〨〩㊣㎎㎏㎜㎝㎞㎡㏄㏎㏑㏒㏕\ufe30￢￤"), (7625, "℡㈱"), (7628, "‐"),
    (7632, "\u30fc゛゜\u30fd\u30fe〆\u309d\u309e\ufe49\ufe4a\ufe4b\ufe4c\ufe4d\ufe4e\ufe4f\ufe50"),
    (7648, "\ufe51\ufe52\ufe54\ufe55\ufe56\ufe57\ufe59\ufe5a\ufe5b\ufe5c\ufe5d\ufe5e\ufe5f\ufe60"),
    (7662, "\ufe61\ufe62\ufe63\ufe64\ufe65\ufe66\ufe68\ufe69\ufe6a\ufe6b"), (7685, "〇"),
    (23651, "\uf92c\uf979\uf995\uf9e7\uf9f1"),
    (23750, "\ufa0c\ufa0d\ufa0e\ufa0f\ufa11\ufa13\ufa14\ufa18\ufa1f\ufa20\ufa21\ufa23\ufa24"),
    (23763, "\ufa27\ufa28\ufa29")]

/-- What GB 18030 adds to GBK, apart from private characters. -/
def CodeTable.gb18030Symbols : CodeTable :=
  [(6432, "€"), (7536, "ǹ"), (7672, "〾⿰⿱⿲⿳⿴⿵⿶⿷⿸⿹⿺⿻"), (23766, "⺁"), (23770, "⺄㑳㑇⺈⺋"),
    (23776, "㖞㘚㘎⺌⺗㥮㤘"), (23784, "㧏㧟㩳㧐"), (23790, "㭎㱮㳠⺧"), (23796, "⺪䁖䅟⺮䌷⺳⺶⺷"), (23805, "䎱䎬⺻䏝䓖䙡䙌"),
    (23813, "䜣䜩䝼䞍⻊䥇䥺䥽䦂䦃䦅䦆䦟䦛䦷䦶"), (23831, "䲣䲟䲠䲡䱷䲢䴓䴔䴕䴖䴗䴘䴙䶮")]

end RequestSchema
