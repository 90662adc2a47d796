import Lateral.Pattern

/-!
The rules of English inflection: irregular pairs, words and endings without a plural of their own,
and the ending rules in both directions. In each list a later rule goes before an earlier one.
-/

namespace Lateral.Inflection

open Pattern

/-- How the end of a word changes: a dollar sign and a number stand for the text of a group, the
number zero for all that matched. -/
structure Rule where
  pattern : Pattern
  replacement : String

def ending (parts : List Pattern) (replacement : String) : Rule :=
  ⟨chain (parts ++ [.finish]), replacement⟩

def irregular : List (String × String) := [
    ("I", "we"), ("me", "us"), ("he", "they"), ("she", "they"), ("them", "them"),
    ("myself", "ourselves"), ("yourself", "yourselves"), ("itself", "themselves"),
    ("herself", "themselves"), ("himself", "themselves"), ("themself", "themselves"),
    ("is", "are"), ("was", "were"), ("has", "have"), ("this", "these"), ("that", "those"),
    ("my", "our"), ("its", "their"), ("his", "their"), ("her", "their"), ("echo", "echoes"),
    ("dingo", "dingoes"), ("volcano", "volcanoes"), ("tornado", "tornadoes"),
    ("torpedo", "torpedoes"), ("genus", "genera"), ("viscus", "viscera"), ("stigma", "stigmata"),
    ("stoma", "stomata"), ("dogma", "dogmata"), ("lemma", "lemmata"), ("schema", "schemata"),
    ("anathema", "anathemata"), ("ox", "oxen"), ("axe", "axes"), ("die", "dice"),
    ("yes", "yeses"), ("foot", "feet"), ("eave", "eaves"), ("goose", "geese"),
    ("tooth", "teeth"), ("quiz", "quizzes"), ("human", "humans"), ("proof", "proofs"),
    ("carve", "carves"), ("valve", "valves"), ("looey", "looies"), ("thief", "thieves"),
    ("groove", "grooves"), ("pickaxe", "pickaxes"), ("passerby", "passersby"),
    ("canvas", "canvases")]

def uncountable : List String := [
    "adulthood", "advice", "agenda", "aid", "aircraft", "alcohol", "ammo", "analytics", "anime",
    "athletics", "audio", "bison", "blood", "bream", "buffalo", "butter", "carp", "cash",
    "chassis", "chess", "clothing", "cod", "commerce", "cooperation", "corps", "debris",
    "diabetes", "digestion", "elk", "energy", "equipment", "excretion", "expertise", "firmware",
    "flounder", "fun", "gallows", "garbage", "graffiti", "hardware", "headquarters", "health",
    "herpes", "highjinks", "homework", "housework", "information", "jeans", "justice", "kudos",
    "labour", "literature", "machinery", "mackerel", "mail", "media", "mews", "moose", "music",
    "mud", "manga", "news", "only", "personnel", "pike", "plankton", "pliers", "police",
    "pollution", "premises", "rain", "research", "rice", "salmon", "scissors", "series",
    "sewage", "shambles", "shrimp", "software", "staff", "swine", "tennis", "traffic",
    "transportation", "trout", "tuna", "wealth", "welfare", "whiting", "wildebeest", "wildlife",
    "you"]

def uncountableEndings : List Rule := [
    ending [word "pok", .among ['e', 'é'], word "mon"] "$0",
    ending [.except ['a', 'e', 'i', 'o', 'u'], word "ese"] "$0",
    ending [word "deer"] "$0",
    ending [word "fish"] "$0",
    ending [word "measles"] "$0",
    ending [word "o", .among ['i', 'u'], word "s"] "$0",
    ending [word "pox"] "$0",
    ending [word "sheep"] "$0"]

def pluralRules : List Rule := [
    ending [optional (word "s")] "s",
    ending [.beyondAscii] "$0",
    ending [.group (chain [.except ['a', 'e', 'i', 'o', 'u'], word "ese"])] "$1",
    ending [.group (words ["ax", "test"]), word "is"] "$1es",
    ending [.group (choice [word "alias", chain [.except ['a', 'o', 'u'], word "us"],
      chain [word "t", .among ['l', 'm'], word "as"], word "gas", word "ris"])] "$1es",
    ending [.group (chain [word "e", .among ['m', 'n'], word "u"]), optional (word "s")] "$1s",
    ending [.group (choice [chain [.except ['l'], word "ias"], chain [.among ['a', 'e', 'i', 'o',
      'u'], word "las"], chain [.among ['e', 'j', 'z', 'r'], word "as"], chain [.among ['i', 'u'],
      word "am"]])] "$1",
    ending [.group (words ["alumn", "syllab", "vir", "radi", "nucle", "fung", "cact", "stimul",
      "termin", "bacill", "foc", "uter", "loc", "strat"]), words ["us", "i"]] "$1i",
    ending [.group (words ["alumn", "alg", "vertebr"]), words ["a", "ae"]] "$1ae",
    ending [.group (words ["seraph", "cherub"]), optional (word "im")] "$1im",
    ending [.group (words ["her", "at", "gr"]), word "o"] "$1oes",
    ending [.group (words ["agend", "addend", "millenni", "dat", "extrem", "bacteri", "desiderat",
      "strat", "candelabr", "errat", "ov", "symposi", "curricul", "automat", "quor"]), words ["a",
      "um"]] "$1a",
    ending [.group (words ["apheli", "hyperbat", "periheli", "asyndet", "noumen", "phenomen",
      "criteri", "organ", "prolegomen", "hedr", "automat"]), words ["a", "on"]] "$1a",
    ending [word "sis"] "ses",
    ending [choice [chain [.group (words ["kni", "wi", "li"]), word "fe"],
      chain [.group (words ["ar", "l", "ea", "eo", "oa", "hoo"]), word "f"]]] "$1$2ves",
    ending [.group (choice [.except ['a', 'e', 'i', 'o', 'u', 'y'], word "qu"]), word "y"] "$1ies",
    ending [.group (chain [.except ['c', 'h'], .among ['i', 'e', 'o'], .among ['l', 'n']]),
      word "ey"] "$1ies",
    ending [.group (words ["x", "ch", "ss", "sh", "zz"])] "$1es",
    ending [.group (words ["matr", "cod", "mur", "sil", "vert", "ind", "append"]), words ["ix",
      "ex"]] "$1ices",
    ending [.boundary, .group (choice [chain [optional (word "tit"), word "m"], word "l"]),
      words ["ice", "ouse"]] "$1ice",
    ending [.group (word "pe"), words ["rson", "ople"]] "$1ople",
    ending [.group (word "child"), optional (word "ren")] "$1ren",
    ending [word "eaux"] "$0",
    ending [word "m", .among ['a', 'e'], word "n"] "men",
    ending [.start, word "thou"] "you"]

def singularRules : List Rule := [
    ending [word "s"] "",
    ending [.group (word "ss")] "$1",
    ending [.group (choice [word "wi", word "kni", chain [choice [word "after", word "half",
      word "high", word "low", word "mid", word "non", word "night", .nonWord, .start],
      word "li"]]), word "ves"] "$1fe",
    ending [.group (choice [word "ar", chain [choice [word "wo", .among ['a', 'e']], word "l"],
      chain [.among ['e', 'o'], .among ['a', 'o']]]), word "ves"] "$1f",
    ending [word "ies"] "y",
    ending [.group (words ["dg", "ss", "ois", "lk", "ok", "wn", "mb", "th", "ch", "ec", "oal", "is",
      "ck", "ix", "sser", "ts", "wb"]), word "ies"] "$1ie",
    ending [.boundary, .group (choice [word "l", chain [optional (words ["neck", "cross", "hog",
      "aun"]), word "t"], word "coll", word "faer", word "food", word "gen", word "goon",
      word "group", word "hipp", word "junk", word "vegg", chain [optional (word "pork"), word "p"],
      word "charl", word "calor", word "cut"]), word "ies"] "$1ie",
    ending [.boundary, .group (words ["mon", "smil"]), word "ies"] "$1ey",
    ending [.boundary, .group (choice [chain [optional (word "tit"), word "m"], word "l"]),
      word "ice"] "$1ouse",
    ending [.group (words ["seraph", "cherub"]), word "im"] "$1",
    ending [.group (choice [word "x", word "ch", word "ss", word "sh", word "zz", word "tto",
      word "go", word "cho", word "alias", chain [.except ['a', 'o', 'u'], word "us"],
      chain [word "t", .among ['l', 'm'], word "as"], word "gas", chain [words ["her", "at", "gr"],
      word "o"], chain [.among ['a', 'e', 'i', 'o', 'u'], word "ris"]]), optional (word "es")] "$1",
    ending [.group (words ["analy", "diagno", "parenthe", "progno", "synop", "the", "empha", "cri",
      "ne"]), words ["sis", "ses"]] "$1sis",
    ending [.group (choice [word "movie", word "twelve", word "abuse", chain [word "e", .among ['m',
      'n'], word "u"]]), word "s"] "$1",
    ending [.group (word "test"), words ["is", "es"]] "$1is",
    ending [.group (words ["alumn", "syllab", "vir", "radi", "nucle", "fung", "cact", "stimul",
      "termin", "bacill", "foc", "uter", "loc", "strat"]), words ["us", "i"]] "$1us",
    ending [.group (words ["agend", "addend", "millenni", "dat", "extrem", "bacteri", "desiderat",
      "strat", "candelabr", "errat", "ov", "symposi", "curricul", "quor"]), word "a"] "$1um",
    ending [.group (words ["apheli", "hyperbat", "periheli", "asyndet", "noumen", "phenomen",
      "criteri", "organ", "prolegomen", "hedr", "automat"]), word "a"] "$1on",
    ending [.group (words ["alumn", "alg", "vertebr"]), word "ae"] "$1a",
    ending [.group (words ["cod", "mur", "sil", "vert", "ind"]), word "ices"] "$1ex",
    ending [.group (words ["matr", "append"]), word "ices"] "$1ix",
    ending [.group (word "pe"), .group (words ["rson", "ople"])] "$1rson",
    ending [.group (word "child"), word "ren"] "$1",
    ending [.group (word "eau"), optional (word "x")] "$1",
    ending [word "men"] "man"]

end Lateral.Inflection
