/-
The general categories, as patterns know them.

A pattern goes by an older edition than the tables of the categories: it takes what
came later for unassigned.
-/
import CountedConfig.Text.Category
import CountedConfig.Unicode.Edition

namespace CountedConfig
namespace Unicode

open Text (Runs Category)

/-- The characters that patterns do not know. -/
def later : Runs := laterThan .ofPatterns

/-- The letters that were lowercase letters at first and then became letters without
case. -/
def reclassified : Runs := [(0x295, 0x295)]

def ofCategory (k : Category) : Runs :=
  match k with
  | .unassigned => Runs.union later (Runs.compl (Runs.unions (Category.all.map Category.runs)))
  | .lowercase => Runs.union (Runs.diff k.runs later) reclassified
  | .otherLetter => Runs.diff (Runs.diff k.runs later) reclassified
  | .surrogate => []
  | listed => Runs.diff listed.runs later

def ofCategories (ks : List Category) : Runs := Runs.unions (ks.map ofCategory)

/-- The names of each category and of each group of categories. -/
def categoryNames : List (List String × List Category) :=
  [(["l", "letter"], Category.letters),
    (["lc", "casedletter"], Category.casedLetters),
    (["lu", "uppercaseletter"], [.uppercase]),
    (["ll", "lowercaseletter"], [.lowercase]),
    (["lt", "titlecaseletter"], [.titlecase]),
    (["lm", "modifierletter"], [.modifierLetter]),
    (["lo", "otherletter"], [.otherLetter]),
    (["m", "mark", "combiningmark"], Category.marks),
    (["mn", "nonspacingmark"], [.nonspacingMark]),
    (["mc", "spacingmark"], [.spacingMark]),
    (["me", "enclosingmark"], [.enclosingMark]),
    (["n", "number"], Category.numbers),
    (["nd", "decimalnumber", "digit"], [.decimalNumber]),
    (["nl", "letternumber"], [.letterNumber]),
    (["no", "othernumber"], [.otherNumber]),
    (["p", "punctuation", "punct"], Category.punctuation),
    (["pc", "connectorpunctuation"], [.connector]),
    (["pd", "dashpunctuation"], [.dash]),
    (["ps", "openpunctuation"], [.openBracket]),
    (["pe", "closepunctuation"], [.closeBracket]),
    (["pi", "initialpunctuation"], [.initialQuote]),
    (["pf", "finalpunctuation"], [.finalQuote]),
    (["po", "otherpunctuation"], [.otherPunctuation]),
    (["s", "symbol"], Category.symbols),
    (["sm", "mathsymbol"], [.mathSymbol]),
    (["sc", "currencysymbol"], [.currencySymbol]),
    (["sk", "modifiersymbol"], [.modifierSymbol]),
    (["so", "othersymbol"], [.otherSymbol]),
    (["z", "separator"], Category.separators),
    (["zs", "spaceseparator"], [.space]),
    (["zl", "lineseparator"], [.lineSeparator]),
    (["zp", "paragraphseparator"], [.paragraphSeparator]),
    (["c", "other"], Category.others),
    (["cc", "control", "cntrl"], [.control]),
    (["cf", "format"], [.format]),
    (["co", "privateuse"], [.privateUse]),
    (["cn", "unassigned"], [.unassigned])]

/-- The characters of a category by its name.  The surrogates are no characters, and
their category has no name here.  Besides the categories there are three sets that
are named like them. -/
def ofCategoryName? (name : String) : Option Runs :=
  if name = "any" then some (Runs.compl [])
  else if name = "assigned" then some (Runs.compl (ofCategory .unassigned))
  else if name = "ascii" then some [(0, 0x7f)]
  else (categoryNames.find? fun entry => entry.1.contains name).map fun entry =>
    ofCategories entry.2

end Unicode
end CountedConfig
