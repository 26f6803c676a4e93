import CodeHighlight.Error
import CodeHighlight.Pattern.Literal
import CodeHighlight.Pattern.Matching
import Std.Data.HashSet.Basic

/-!
# Keywords — telling keywords from other words

A set of keywords is a test on words, exact and with regard to case.  It can be given by a pattern,
by a list, an array or a hash set of words, or by any other test; `shipped` is a set made of the
reserved words of many popular languages, so that none needs to be selected.
-/

namespace CodeHighlight

/-- A test that tells keywords from other words. -/
structure Keywords where
  isKeyword : String → Bool

namespace Keywords

/-- The words in which the pattern matches; it should be anchored at both ends. -/
def ofPattern (pattern : Pattern) : Keywords := ⟨pattern.isMatch⟩

def ofList (words : List String) : Keywords := ⟨words.contains⟩

def ofArray (words : Array String) : Keywords := ⟨words.contains⟩

def ofHashSet (words : Std.HashSet String) : Keywords := ⟨words.contains⟩

/-- The words in which a written pattern matches. -/
def ofWrittenPattern (text : String) : Except Error Keywords :=
  match Pattern.parse text with
  | .ok pattern => .ok (ofPattern pattern)
  | .error fault => .error (.invalidKeywordPattern fault)

/-- Exactly these words, by way of a written pattern.  Without any word it is the empty text that
counts as a keyword. -/
def ofWords (words : List String) : Except Error Keywords :=
  ofWrittenPattern (Pattern.ofWords words)

/-! ### The shipped set -/

/-- The shipped set as a written pattern. -/
def shippedText : String :=
  "^(a(bstract|lias|nd|rguments|rray|s(m|sert)?|uto)" ++
  "|b(ase|egin|ool(ean)?|reak|yte)" ++
  "|c(ase|atch|har|hecked|lass|lone|ompl|onst|ontinue)" ++
  "|de(bugger|cimal|clare|f(ault|er)?|init|l(egate|ete)?)" ++
  "|do|double" ++
  "|e(cho|ls?if|lse(if)?|nd|nsure|num|vent|x(cept|ec|p(licit|ort)|te(nds|nsion|rn)))" ++
  "|f(allthrough|alse|inal(ly)?|ixed|loat|or(each)?|riend|rom|unc(tion)?)" ++
  "|global|goto|guard" ++
  "|i(f|mp(lements|licit|ort)|n(it|clude(_once)?|line|out|stanceof|t(erface|ernal)?)?|s)" ++
  "|l(ambda|et|ock|ong)" ++
  "|m(icrolight|odule|utable)" ++
  "|NaN" ++
  "|n(amespace|ative|ext|ew|il|ot|ull)" ++
  "|o(bject|perator|r|ut|verride)" ++
  "|p(ackage|arams|rivate|rotected|rotocol|ublic)" ++
  "|r(aise|e(adonly|do|f|gister|peat|quire(_once)?|scue|strict|try|turn))" ++
  "|s(byte|ealed|elf|hort|igned|izeof|tatic|tring|truct|ubscript|uper|ynchronized|witch)" ++
  "|t(emplate|hen|his|hrows?|ransient|rue|ry|ype(alias|def|id|name|of))" ++
  "|u(n(checked|def(ined)?|ion|less|signed|til)|se|sing)" ++
  "|v(ar|irtual|oid|olatile)" ++
  "|w(char_t|hen|here|hile|ith)" ++
  "|xor|yield)$"

/-- The pattern of the shipped set. -/
def shippedPattern : Pattern := (Pattern.parse shippedText).toOption.getD .empty

/-- The shipped set: reserved words of many popular languages. -/
def shipped : Keywords := ofPattern shippedPattern

end Keywords

end CodeHighlight
