import RequestSchema.Text.Basic

set_option autoImplicit false

/-!
# Plurals of English nouns

A list of rules on the ending of a word, of which the first that applies gives the plural. Letters
are compared without regard to case, but what a rule puts in is written as it stands there. A final
line feed does not hide the ending before it.
-/

namespace RequestSchema.Plural

/-- A letter without its case. A few letters outside ASCII count as the ASCII letter they come
    from. -/
def fold (c : CodePoint) : CodePoint :=
  if c = '\u017F' then 's'
  else if c = '\u212A' then 'k'
  else if c = '\u0130' ∨ c = '\u0131' then 'i'
  else c.toLower

/-- What has to stand before the ending that a rule replaces. -/
inductive Stem where
  | anything
  | oneOf (ends : List Text)
  | exactly (words : List Text)
  | consonant
  | other (letter : CodePoint)

inductive Ending where
  | ignoringCase (text : Text)
  /-- The first letter in the given case, the others in any case. -/
  | initial (first : CodePoint) (rest : Text)

structure Rule where
  stem : Stem
  endings : List Ending
  replacement : Text

def endsLike (text : Text) (word : List CodePoint) : Bool :=
  text.toList.isSuffixOf (word.map fold)

def Stem.fits (word : List CodePoint) : Stem → Bool
  | anything => true
  | oneOf ends => ends.any fun text => endsLike text word
  | exactly words => words.any fun text => text.toList == word.map fold
  | consonant =>
    endsLike "qu" word ||
      word.getLast?.any fun c =>
        !List.contains [char 'a', char 'e', char 'i', char 'o', char 'u', char 'y'] (fold c)
  | other letter => word.getLast?.any fun c => fold c != letter

/-- The word without the ending, if it has it. -/
def Ending.strip? (word : List CodePoint) : Ending → Option (List CodePoint)
  | ignoringCase text =>
    if endsLike text word then some (word.take (word.length - text.length)) else none
  | initial first rest =>
    let stem := word.take (word.length - rest.length - 1)
    match word.drop stem.length with
    | c :: cs => if c = first ∧ cs.map CodePoint.toLower = rest.toList then some stem else none
    | [] => none

def Rule.pluralOf? (word : List CodePoint) (rule : Rule) : Option (List CodePoint) :=
  rule.endings.findSome? fun ending =>
    match ending.strip? word with
    | some stem => if rule.stem.fits stem then some (stem ++ rule.replacement.toList) else none
    | none => none

/-- A rule that replaces an ending after one of some stems. -/
def after (stems : List Text) (endings : List Text) (replacement : Text) : Rule :=
  ⟨.oneOf stems, endings.map .ignoringCase, replacement⟩

def rules : List Rule := [
  after ["z"] ["ombies"] "ombies",
  after ["z"] ["ombie"] "ombies",
  ⟨.anything, [.initial 'k' "ine"], "kine"⟩,
  ⟨.anything, [.initial 'K' "ine"], "Kine"⟩,
  ⟨.anything, [.initial 'c' "ow"], "kine"⟩,
  ⟨.anything, [.initial 'C' "ow"], "Kine"⟩,
  after ["m"] ["oves"] "oves",
  after ["m"] ["ove"] "oves",
  after ["s"] ["exes"] "exes",
  after ["s"] ["ex"] "exes",
  after ["c"] ["hildren"] "hildren",
  after ["c"] ["hild"] "hildren",
  after ["h"] ["umans"] "umans",
  after ["h"] ["uman"] "umans",
  after ["m"] ["en"] "en",
  after ["m"] ["an"] "en",
  after ["p"] ["eople"] "eople",
  after ["p"] ["erson"] "eople",
  after ["quiz"] [""] "zes",
  ⟨.exactly ["oxen"], [.ignoringCase ""], ""⟩,
  ⟨.exactly ["ox"], [.ignoringCase ""], "en"⟩,
  after ["m", "l"] ["ice"] "ice",
  after ["m", "l"] ["ouse"] "ice",
  after ["passer"] ["sby", "by"] "sby",
  after ["matr", "vert", "ind"] ["ix", "ex"] "ices",
  after ["x", "ch", "ss", "sh"] [""] "es",
  ⟨.consonant, [.ignoringCase "y"], "ies"⟩,
  after ["hive"] [""] "s",
  after ["l", "r"] ["f"] "ves",
  ⟨.other 'f', [.ignoringCase "fe"], "ves"⟩,
  ⟨.anything, [.ignoringCase "sis"], "ses"⟩,
  after ["t", "i"] ["a"] "a",
  after ["t", "i"] ["um"] "a",
  after ["buffal", "potat", "tomat"] ["o"] "oes",
  after ["bu"] ["s"] "ses",
  after ["alias", "status"] [""] "es",
  after ["octop", "vir"] ["i"] "i",
  after ["octop", "vir"] ["us"] "i",
  ⟨.exactly ["ax", "test"], [.ignoringCase "is"], "es"⟩,
  ⟨.anything, [.ignoringCase "s"], "s"⟩]

def uncountable : List Text :=
  ["equipment", "fish", "information", "jeans", "money", "rice", "series", "sheep", "species"]

/-- The first rule's plural. A word that no rule fits takes an `s`. -/
def ofChars (word : List CodePoint) : List CodePoint :=
  (rules.findSome? (Rule.pluralOf? word)).getD (word ++ [char 's'])

/-- A word that ends in a line feed is treated by what stands before it, and one that no rule fits
    takes an `s` on both sides of the line feed. -/
def ofLine (word : List CodePoint) : List CodePoint :=
  if word.getLast? = some (char '\n') then
    match rules.findSome? (Rule.pluralOf? word.dropLast) with
    | some plural => plural ++ [char '\n']
    | none => word.dropLast ++ [char 's', char '\n', char 's']
  else ofChars word

end Plural

open Plural in
def pluralize (word : Text) : Text :=
  let lower := Text.ofList (word.toList.map CodePoint.toLower)
  if word.isEmpty || uncountable.contains lower then word else Text.ofList (ofLine word.toList)

end RequestSchema
