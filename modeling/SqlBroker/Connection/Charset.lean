/-!
# Character sets

The character sets that a MySQL connection can have, and the collations of each. A collation is
named by its character set and an ending, except for that of plain bytes. All names are in lower
case.

Models the values that the option `charset` may have (SPEC_FULL.md, section 11).
-/

namespace SqlBroker.Charset

/-- The endings that every character set of all of Unicode has. -/
def unicodeEndings : List String :=
  ["bin", "croatian_ci", "czech_ci", "danish_ci", "esperanto_ci", "estonian_ci", "general_ci",
   "german2_ci", "hungarian_ci", "icelandic_ci", "latvian_ci", "lithuanian_ci", "persian_ci",
   "polish_ci", "roman_ci", "romanian_ci", "sinhala_ci", "slovak_ci", "slovenian_ci",
   "spanish2_ci", "spanish_ci", "swedish_ci", "turkish_ci", "unicode_520_ci", "unicode_ci",
   "vietnamese_ci"]

/-- The endings that most other character sets have. -/
def plainEndings : List String := ["bin", "general_ci"]

/-- The character sets with the endings of their collations. -/
def table : List (String × List String) :=
  [("armscii8", plainEndings),
   ("ascii", plainEndings),
   ("big5", ["bin", "chinese_ci"]),
   ("binary", []),
   ("cp1250", ["croatian_ci", "czech_cs", "polish_ci"] ++ plainEndings),
   ("cp1251", ["bulgarian_ci", "general_cs", "ukrainian_ci"] ++ plainEndings),
   ("cp1256", plainEndings),
   ("cp1257", "lithuanian_ci" :: plainEndings),
   ("cp850", plainEndings),
   ("cp852", plainEndings),
   ("cp866", plainEndings),
   ("cp932", ["bin", "japanese_ci"]),
   ("dec8", ["bin", "swedish_ci"]),
   ("eucjpms", ["bin", "japanese_ci"]),
   ("euckr", ["bin", "korean_ci"]),
   ("gb18030", ["bin", "chinese_ci", "unicode_520_ci"]),
   ("gb2312", ["bin", "chinese_ci"]),
   ("gbk", ["bin", "chinese_ci"]),
   ("geostd8", plainEndings),
   ("greek", plainEndings),
   ("hebrew", plainEndings),
   ("hp8", ["bin", "english_ci"]),
   ("keybcs2", plainEndings),
   ("koi8r", plainEndings),
   ("koi8u", plainEndings),
   ("latin1",
    ["danish_ci", "general_cs", "german1_ci", "german2_ci", "spanish_ci", "swedish_ci"] ++
      plainEndings),
   ("latin2", ["croatian_ci", "czech_cs", "hungarian_ci"] ++ plainEndings),
   ("latin5", ["bin", "turkish_ci"]),
   ("latin7", ["estonian_cs", "general_cs"] ++ plainEndings),
   ("macce", plainEndings),
   ("macroman", plainEndings),
   ("sjis", ["bin", "japanese_ci"]),
   ("swe7", ["bin", "swedish_ci"]),
   ("tis620", ["bin", "thai_ci"]),
   ("ucs2", "general_mysql500_ci" :: unicodeEndings),
   ("ujis", ["bin", "japanese_ci"]),
   ("utf16", unicodeEndings),
   ("utf16le", plainEndings),
   ("utf32", unicodeEndings),
   ("utf8", ["general_mysql500_ci", "tolower_ci"] ++ unicodeEndings),
   ("utf8mb4", "0900_ai_ci" :: unicodeEndings)]

/-- Whether a name is that of a character set. -/
def isCharset (name : String) : Bool := table.any (·.1 = name)

/-- Whether a name is that of a collation. -/
def isCollation (name : String) : Bool :=
  name = "binary" ||
    table.any fun (charset, endings) => endings.any fun ending => charset ++ "_" ++ ending = name

/-- The character set of a connection where none is given. -/
def standard : String := "utf8mb4"

end SqlBroker.Charset
