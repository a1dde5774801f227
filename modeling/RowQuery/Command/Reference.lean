/-! The syntax reference that the command line prints. -/

namespace RowQuery.Command

def referenceLines : List String :=
  ["SIFT SYNTAX",
   "",
   "FILTERS",
   "-------",
   "A filter is one or more conditions joined by connectives:",
   "",
   "  Field operator value",
   "  Price ge 100 and (Name eq \"a\" or Name eq \"b\")",
   "",
   "Connectives fold strictly left to right; there is no precedence.",
   "",
   "  A eq 1 and B eq 2 or C eq 3      means   (A and B) or C",
   "  A eq 1 and (B eq 2 or C eq 3)    groups the right side",
   "",
   "Empty input means \"no filter\". An empty group () is an error.",
   "",
   "VALUES",
   "------",
   "  word      letters, digits, @ and _         Name eq Item_1",
   "  number    digits, . and -  (not checked)   Price gt -1.5",
   "  string    double quotes, \\ escapes a char  Name eq \"a\\\"b\"",
   "",
   "With --null, the bare word null means \"no value\". \"null\" in quotes",
   "is always the text null.",
   "",
   "ORDER LISTS",
   "-----------",
   "  Field [direction] , Field [direction] ...",
   "  Date desc, Price",
   "",
   "KEYWORDS",
   "--------",
   "Operators, connectives, directions and delimiters come from the",
   "vocabulary. The built-in preset understands:",
   "",
   "  operators     eq ne lt le gt ge = == != <> < <= > >=",
   "                startswith endswith contains doesnotcontain in",
   "  connectives   and or && ||",
   "  directions    asc desc ascending descending",
   "  delimiter     ,",
   "",
   "Load another vocabulary with --vocabulary FILE or SIFT_VOCABULARY.",
   ""]

def reference : String :=
  "\n".intercalate referenceLines

end RowQuery.Command
