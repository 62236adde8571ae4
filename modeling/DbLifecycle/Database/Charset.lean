/-!
# Character sets of servers

* `Charset.names`: the character sets there are.
* `Charset.isCollation`: whether a text names a way to order the texts of one of them.
-/

namespace DbLifecycle

namespace Charset

/-- The orders of the character sets that hold every character. -/
def languages : List String :=
  ["bin", "croatian_ci", "czech_ci", "danish_ci", "esperanto_ci", "estonian_ci", "general_ci",
   "german2_ci", "hungarian_ci", "icelandic_ci", "latvian_ci", "lithuanian_ci", "persian_ci",
   "polish_ci", "roman_ci", "romanian_ci", "sinhala_ci", "slovak_ci", "slovenian_ci", "spanish2_ci",
   "spanish_ci", "swedish_ci", "turkish_ci", "unicode_520_ci", "unicode_ci", "vietnamese_ci"]

/-- The character sets and the orders of each. -/
def table : List (String × List String) :=
  [("armscii8", ["bin", "general_ci"]),
   ("ascii", ["bin", "general_ci"]),
   ("big5", ["bin", "chinese_ci"]),
   ("binary", []),
   ("cp1250", ["bin", "croatian_ci", "czech_cs", "general_ci", "polish_ci"]),
   ("cp1251", ["bin", "bulgarian_ci", "general_ci", "general_cs", "ukrainian_ci"]),
   ("cp1256", ["bin", "general_ci"]),
   ("cp1257", ["bin", "general_ci", "lithuanian_ci"]),
   ("cp850", ["bin", "general_ci"]),
   ("cp852", ["bin", "general_ci"]),
   ("cp866", ["bin", "general_ci"]),
   ("cp932", ["bin", "japanese_ci"]),
   ("dec8", ["bin", "swedish_ci"]),
   ("eucjpms", ["bin", "japanese_ci"]),
   ("euckr", ["bin", "korean_ci"]),
   ("gb18030", ["bin", "chinese_ci", "unicode_520_ci"]),
   ("gb2312", ["bin", "chinese_ci"]),
   ("gbk", ["bin", "chinese_ci"]),
   ("geostd8", ["bin", "general_ci"]),
   ("greek", ["bin", "general_ci"]),
   ("hebrew", ["bin", "general_ci"]),
   ("hp8", ["bin", "english_ci"]),
   ("keybcs2", ["bin", "general_ci"]),
   ("koi8r", ["bin", "general_ci"]),
   ("koi8u", ["bin", "general_ci"]),
   ("latin1", ["bin", "danish_ci", "general_ci", "general_cs", "german1_ci", "german2_ci",
     "spanish_ci", "swedish_ci"]),
   ("latin2", ["bin", "croatian_ci", "czech_cs", "general_ci", "hungarian_ci"]),
   ("latin5", ["bin", "turkish_ci"]),
   ("latin7", ["bin", "estonian_cs", "general_ci", "general_cs"]),
   ("macce", ["bin", "general_ci"]),
   ("macroman", ["bin", "general_ci"]),
   ("sjis", ["bin", "japanese_ci"]),
   ("swe7", ["bin", "swedish_ci"]),
   ("tis620", ["bin", "thai_ci"]),
   ("ucs2", languages ++ ["general_mysql500_ci"]),
   ("ujis", ["bin", "japanese_ci"]),
   ("utf16", languages),
   ("utf16le", ["bin", "general_ci"]),
   ("utf32", languages),
   ("utf8", languages ++ ["general_mysql500_ci", "tolower_ci"]),
   ("utf8mb4", languages ++ ["0900_ai_ci"])]

/-- The character sets there are. -/
def names : List String := table.map (·.1)

/-- Whether a text names an order: a character set and one of its orders, or the order of bytes. -/
def isCollation (text : String) : Bool :=
  text == "binary" || table.any fun row => row.2.any fun order => text == row.1 ++ "_" ++ order

end Charset

end DbLifecycle
