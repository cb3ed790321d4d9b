/-!
The grammar of common terminals, which every grammar can import from.
-/

namespace ReservedWords.Grammar

/-- The lines of the grammar of common terminals. -/
def commonLines : List String :=
  [ "DIGIT: \"0\"..\"9\"",
    "HEXDIGIT: \"a\"..\"f\"|\"A\"..\"F\"|DIGIT",
    "INT: DIGIT+",
    "SIGNED_INT: [\"+\"|\"-\"] INT",
    "DECIMAL: INT \".\" INT? | \".\" INT",
    "_EXP: (\"e\"|\"E\") SIGNED_INT",
    "FLOAT: INT _EXP | DECIMAL _EXP?",
    "SIGNED_FLOAT: [\"+\"|\"-\"] FLOAT",
    "NUMBER: FLOAT | INT",
    "SIGNED_NUMBER: [\"+\"|\"-\"] NUMBER",
    "_STRING_INNER: /.*?/",
    "_STRING_ESC_INNER: _STRING_INNER /(?<!\\\\)(\\\\\\\\)*?/",
    "ESCAPED_STRING : \"\\\"\" _STRING_ESC_INNER \"\\\"\"",
    "LCASE_LETTER: \"a\"..\"z\"",
    "UCASE_LETTER: \"A\"..\"Z\"",
    "LETTER: UCASE_LETTER | LCASE_LETTER",
    "WORD: LETTER+",
    "CNAME: (\"_\"|LETTER) (\"_\"|LETTER|DIGIT)*",
    "WS_INLINE: (\" \"|/\\t/)+",
    "WS: /[ \\t\\f\\r\\n]/+",
    "CR : /\\r/",
    "LF : /\\n/",
    "NEWLINE: (CR? LF)+",
    "SH_COMMENT: /#[^\\n]*/",
    "CPP_COMMENT: /\\/\\/[^\\n]*/",
    "C_COMMENT: \"/*\" /(.|\\n)*?/ \"*/\"",
    "SQL_COMMENT: /--[^\\n]*/"]

/-- The grammar of common terminals, under its relative path. -/
def commonGrammar? (path : String) : Option String :=
  if path = "common.lark" then some ("\n".intercalate commonLines ++ "\n") else none

end ReservedWords.Grammar
