import Mathlib.Data.List.TakeWhile
import ParseScope.Grammar.Patterns
import ParseScope.Proofs.Grammar.Definition
import ParseScope.Proofs.Text.Bytes
import ParseScope.Proofs.Text.Lines

/-!
The search for one rule against the list of all definitions. For a name made of word characters the
two agree: the search gives the first definition of that name, and nothing when there is none.
-/
namespace ParseScope

/-! ### Words and lines -/

namespace Text

/-- Words end at blanks. -/
theorem isWordPart_of_isBlank (c : Char) (blank : isBlank c = true) : isWordPart c = false := by
  simp only [isBlank,Bool.or_eq_true,decide_eq_true_eq] at blank
  rcases blank with rfl | rfl
  · decide
  · decide

theorem isWordPart_equals : isWordPart '=' = false := by decide

theorem isWordPart_feed : isWordPart '\n' = false := by decide

/-- What does not go on over line feeds stays inside the first line. -/
theorem span_feed (p : Char → Bool) (stops : p '\n' = false) (line rest : List Char) :
    (line ++ '\n' :: rest).takeWhile p = line.takeWhile p ∧
    (line ++ '\n' :: rest).dropWhile p = line.dropWhile p ++ '\n' :: rest := by
  induction line with
  | nil => simp [stops]
  | cons c line ih =>
    by_cases passes : p c = true
    · simp [passes,ih]
    · simp [passes]

end Text

namespace Grammar

open Text (isBlank isWordPart)

theorem definesNext_feed (line rest : List Char) :
    definesNext (line ++ '\n' :: rest) = definesNext line := by
  rw [definesNext,definesNext,(Text.span_feed isBlank rfl line rest).2]
  cases line.dropWhile isBlank with
  | nil => rfl
  | cons c more => rfl

theorem definedName?_feed (line rest : List Char) :
    definedName? (line ++ '\n' :: rest) = definedName? line := by
  obtain ⟨blanks,afterBlanks⟩ := Text.span_feed isBlank rfl line rest
  obtain ⟨name,afterName⟩ :=
    Text.span_feed isWordPart Text.isWordPart_feed (line.dropWhile isBlank) rest
  simp only [definedName?,blanks,afterBlanks,name,afterName,definesNext_feed]

/-- What a text defines at its head is what its first line defines. -/
theorem definedName?_first (text line : List Char) (more : List (List Char))
    (split : Text.lines text = line :: more) : definedName? text = definedName? line := by
  have whole := Text.flatMap_lines text
  rw [split,List.flatMap_cons,List.append_assoc,List.singleton_append] at whole
  rw [← definedName?_feed text [],← whole,definedName?_feed]

/-! ### At one line -/

theorem definesNext_stops (text : List Char) (defines : definesNext text = true) :
    text.takeWhile isWordPart = [] ∧ text.dropWhile isWordPart = text := by
  cases text with
  | nil => exact ⟨rfl,rfl⟩
  | cons c rest =>
    have noWord : isWordPart c = false := by
      cases blank : isBlank c with
      | true => exact Text.isWordPart_of_isBlank c blank
      | false =>
        obtain rfl : c = '=' := by simpa [definesNext,blank] using defines
        exact Text.isWordPart_equals
    simp [noWord]

section Word

variable (rule : List Char) (nonempty : rule ≠ []) (word : ∀ c ∈ rule, isWordPart c = true)

include word

/-- A word is matched letter by letter exactly where it is the whole name. -/
theorem beginsDefinition_word (text : List Char) : beginsDefinition rule text = true ↔
    text.takeWhile isWordPart = rule ∧ definesNext (text.dropWhile isWordPart) = true := by
  rw [beginsDefinition,Bool.and_eq_true,List.isPrefixOf_iff_prefix]
  constructor
  · rintro ⟨⟨rest,rfl⟩,defines⟩
    rw [List.drop_left] at defines
    obtain ⟨noMore,same⟩ := definesNext_stops rest defines
    rw [List.takeWhile_append_of_pos word,List.dropWhile_append_of_pos word,noMore,same,
      List.append_nil]
    exact ⟨rfl,defines⟩
  · rintro ⟨name,defines⟩
    have whole := List.takeWhile_append_dropWhile (p := isWordPart) (l := text)
    rw [name] at whole
    rw [← whole,List.drop_left]
    exact ⟨List.prefix_append _ _,defines⟩

include nonempty

/-- A word does not begin with a blank. -/
theorem beginsDefinition_blank (c : Char) (rest : List Char) (blank : isBlank c = true) :
    beginsDefinition rule (c :: rest) = false := by
  rw [Bool.eq_false_iff]
  intro begins
  obtain ⟨name,_⟩ := (beginsDefinition_word rule word _).mp begins
  rw [List.takeWhile_cons_of_neg (by simp [Text.isWordPart_of_isBlank c blank])] at name
  exact nonempty name.symm

/-- Of the blanks at the head of a line none can be left out before a word. -/
theorem indentOf?_word (text : List Char) (most : Nat)
    (blanks : most ≤ (text.takeWhile isBlank).length) :
    indentOf? rule text most =
      if beginsDefinition rule (text.drop most) then some most else none := by
  induction most with
  | zero => simp [indentOf?]
  | succ most ih =>
    have blank : beginsDefinition rule (text.drop most) = false := by
      have whole := List.takeWhile_append_dropWhile (p := isBlank) (l := text)
      rw [← whole,List.drop_append_of_le_length (by omega),List.drop_eq_getElem_cons blanks]
      exact beginsDefinition_blank rule nonempty word _ _
        (List.mem_takeWhile_imp (List.getElem_mem blanks))
    rw [indentOf?,ih (by omega),blank]
    rfl

/-- A line is found to define a word exactly when that is the name it defines. -/
theorem definitionAt?_word (text : List Char) : definitionAt? rule text =
    ((definedName? text).filter (·.2 = rule)).map (·.1) := by
  have dropped : text.drop (text.takeWhile isBlank).length = text.dropWhile isBlank :=
    (congrArg (List.drop _) List.takeWhile_append_dropWhile).symm.trans List.drop_left
  rw [definitionAt?,indentOf?_word rule nonempty word text _ (Nat.le_refl _),dropped]
  simp only [beginsDefinition_word rule word,definedName?]
  by_cases name : (text.dropWhile isBlank).takeWhile isWordPart = rule
  · cases defines : definesNext ((text.dropWhile isBlank).dropWhile isWordPart) with
    | true => simp [name,nonempty,Option.filter_some]
    | false => simp
  · rw [if_neg (mt And.left name)]
    split
    next => simp [Option.filter_some,name]
    next => rfl

end Word

/-! ### In the whole text -/

/-- Where the first definition of a name begins. -/
def firstNamed (name : String) (definitions : List Labelled) : Option Nat :=
  (definitions.find? (·.label = name)).map (·.span.first)

theorem firstNamed_definitionsFrom (name : String) (offset : Nat) (line : List Char)
    (more : List (List Char)) : firstNamed name (definitionsFrom offset (line :: more)) =
      ((((definedName? line).filter (·.2 = name.toList)).map (offset + ·.1)).or
        (firstNamed name (definitionsFrom (offset + line.length + 1) more))) := by
  rw [definitionsFrom]
  cases defined : definedName? line with
  | none => rfl
  | some found =>
    obtain ⟨blanks,other⟩ := found
    by_cases same : other = name.toList
    · simp [firstNamed,Option.filter_some,same]
    · have label : String.ofList other ≠ name := by
        rintro rfl
        exact same String.toList_ofList.symm
      simp [firstNamed,Option.filter_some,same,label]

/-- The search goes from line to line as the list does; inside a line that it has passed, it goes on
at the next. -/
theorem findFrom?_word (name : String) (nonempty : name.toList ≠ [])
    (word : ∀ c ∈ name.toList, isWordPart c = true) (text line : List Char)
    (more : List (List Char)) (split : Text.lines text = line :: more) (offset : Nat) :
    findFrom? name.toList offset false text =
      firstNamed name (definitionsFrom (offset + line.length + 1) more) ∧
    findFrom? name.toList offset true text =
      firstNamed name (definitionsFrom offset (line :: more)) := by
  induction text generalizing line more offset with
  | nil =>
    obtain ⟨rfl,rfl⟩ := List.cons.inj split
    exact ⟨rfl,rfl⟩
  | cons c rest ih =>
    obtain ⟨first,others,lines⟩ := Text.exists_lines rest
    have passed : findFrom? name.toList (offset + 1) (c = '\n') rest =
        firstNamed name (definitionsFrom (offset + line.length + 1) more) := by
      obtain ⟨inside,atStart⟩ := ih first others lines (offset + 1)
      rw [Text.lines,lines] at split
      by_cases feed : c = '\n'
      · obtain ⟨rfl,rfl⟩ := List.cons.inj ((if_pos feed).symm.trans split)
        rw [decide_eq_true feed]
        exact atStart
      · obtain ⟨rfl,rfl⟩ := List.cons.inj ((if_neg feed).symm.trans split)
        rw [decide_eq_false feed,inside,List.length_cons]
        congr 2
        omega
    refine ⟨passed,?_⟩
    rw [firstNamed_definitionsFrom,← definedName?_first _ _ _ split,findFrom?,if_pos rfl,
      definitionAt?_word _ nonempty word]
    cases (definedName? (c :: rest)).filter (·.2 = name.toList) with
    | none => exact passed
    | some found => rfl

/-- The label of a definition is a word. -/
theorem word_of_mem_definitionsFrom (offset : Nat) (lines : List (List Char)) (labelled : Labelled)
    (member : labelled ∈ definitionsFrom offset lines) :
    labelled.label ≠ "" ∧ ∀ c ∈ labelled.label.toList, isWordPart c = true := by
  induction lines generalizing offset with
  | nil => exact nomatch member
  | cons line rest ih =>
    rw [definitionsFrom] at member
    cases defined : definedName? line with
    | none => exact ih _ (by simpa [defined] using member)
    | some found =>
      obtain ⟨blanks,name⟩ := found
      simp only [defined,List.mem_cons] at member
      rcases member with rfl | member
      · have nonempty := (definedName?_inside line blanks name defined).1
        obtain ⟨_,same⟩ := Option.ite_none_right_eq_some.mp defined
        obtain ⟨_,rfl⟩ := Prod.mk.inj (Option.some.inj same)
        refine ⟨by simpa [← String.toList_eq_nil_iff] using nonempty,fun c member => ?_⟩
        rw [String.toList_ofList] at member
        exact List.mem_takeWhile_imp member
      · exact ih _ member

/-- A word is found where it is first defined. -/
theorem search?_word (grammar name : String) (nonempty : name ≠ "")
    (word : ∀ c ∈ name.toList, isWordPart c = true) :
    search? grammar name = ((definitions grammar).find? (·.label = name)).map (·.span) := by
  obtain ⟨line,more,lines⟩ := Text.exists_lines grammar.toList
  have search := (findFrom?_word name (mt String.toList_eq_nil_iff.mp nonempty) word grammar.toList
    line more lines 0).2
  rw [← lines,← definitions] at search
  rw [search?,search,firstNamed,Option.map_map]
  -- The width of the name at its first definition gives the end of the span.
  apply Option.map_congr
  intro definition found
  have label : definition.label = name := by simpa using List.find?_some found
  have member := List.mem_of_find?_eq_some found
  have width := (spans_of_mem_definitions grammar definition member).width
  rw [label] at width
  have last : definition.span.last = definition.span.first + name.toList.length - 1 := by omega
  simp only [Function.comp_apply,← last]

/-- The two searches agree: a name made of word characters whose pattern compiles is found at the
first definition with that label, and not found when no definition has it; so each label that is
listed, and whose pattern compiles, is found again. Names whose pattern does not compile are not
found, be they listed or not. -/
theorem find?_agrees_definitions [Patterns] (grammar : String) :
    (∀ name : String, name ≠ "" → (∀ c ∈ name.toList, isWordPart c = true) →
      Patterns.compiles name = true →
      find? grammar name = ((definitions grammar).find? (·.label = name)).map (·.span) ∧
      (find? grammar name = none ↔ ∀ definition ∈ definitions grammar, definition.label ≠ name)) ∧
    (∀ name, Patterns.compiles name = false → find? grammar name = none) ∧
    ∀ definition ∈ definitions grammar, Patterns.compiles definition.label = true →
      ∃ span, find? grammar definition.label = some span := by
  have agrees (name : String) (nonempty : name ≠ "") (word : ∀ c ∈ name.toList, isWordPart c = true)
      (compiles : Patterns.compiles name = true) : find? grammar name =
        ((definitions grammar).find? (·.label = name)).map (·.span) := by
    rw [find?_eq_search? grammar name nonempty compiles,search?_word grammar name nonempty word]
  have none_iff (name : String) (nonempty : name ≠ "")
      (word : ∀ c ∈ name.toList, isWordPart c = true) (compiles : Patterns.compiles name = true) :
      find? grammar name = none ↔ ∀ definition ∈ definitions grammar, definition.label ≠ name := by
    simp [agrees name nonempty word compiles]
  refine ⟨fun name nonempty word compiles => ⟨agrees name nonempty word compiles,
      none_iff name nonempty word compiles⟩,
    find?_eq_none grammar,fun definition member compiles => ?_⟩
  obtain ⟨nonempty,word⟩ := word_of_mem_definitionsFrom 0 _ definition member
  cases found : find? grammar definition.label with
  | some span => exact ⟨span,rfl⟩
  | none => exact absurd rfl ((none_iff _ nonempty word compiles).mp found definition member)

/-- A rule whose name begins that of another, defined twice, once after a tab. -/
def repeatedGrammar : String := "sums = 'é'\n\tsum=sums\nsum = ''"

theorem find?_repeatedGrammar :
    definitions repeatedGrammar = [⟨⟨0,3⟩,"sums"⟩,⟨⟨12,14⟩,"sum"⟩,⟨⟨21,23⟩,"sum"⟩] ∧
    find? repeatedGrammar "sum" = some ⟨12,14⟩ ∧ find? repeatedGrammar "um" = none := by
  obtain ⟨words,_⟩ := find?_agrees_definitions repeatedGrammar
  have sum := words "sum" (by decide) (List.all_eq_true.mp (by decide)) (by decide)
  have um := words "um" (by decide) (List.all_eq_true.mp (by decide)) (by decide)
  exact ⟨by decide,sum.1.trans (by decide),um.2.mpr (by decide)⟩

/-! ### A name that is too long -/

theorem definedName?_equals (name : List Char) (nonempty : name ≠ [])
    (word : ∀ c ∈ name, isWordPart c = true) : definedName? (name ++ ['=']) = some (0,name) := by
  have indent : (name ++ ['=']).takeWhile isBlank = [] ∧
      (name ++ ['=']).dropWhile isBlank = name ++ ['='] := by
    obtain ⟨c,rest,rfl⟩ := List.exists_cons_of_ne_nil nonempty
    have noBlank : isBlank c = false := by
      rw [Bool.eq_false_iff]
      intro blank
      exact absurd (word c (by simp)) (by simp [Text.isWordPart_of_isBlank c blank])
    simp [noBlank]
  have taken : (name ++ ['=']).takeWhile isWordPart = name := by
    rw [List.takeWhile_append_of_pos word]
    simp [Text.isWordPart_equals]
  have dropped : (name ++ ['=']).dropWhile isWordPart = ['='] := by
    rw [List.dropWhile_append_of_pos word]
    simp [Text.isWordPart_equals]
  simp only [definedName?,indent,taken,dropped]
  simp [nonempty,definesNext,isBlank]

/-- A grammar that is a word and an equals sign defines this word. -/
theorem definitions_equals (name : String) (nonempty : name ≠ "")
    (word : ∀ c ∈ name.toList, isWordPart c = true) :
    definitions (name ++ "=") = [⟨⟨0,name.length - 1⟩,name⟩] := by
  have unbroken : '\n' ∉ name.toList ++ ['='] := by
    simp only [List.mem_append,not_or]
    refine ⟨fun member => ?_,by decide⟩
    exact absurd (word _ member) (by decide)
  have whole : (name ++ "=").toList = name.toList ++ ['='] := String.toList_append
  have defined := definedName?_equals name.toList (mt String.toList_eq_nil_iff.mp nonempty) word
  rw [definitions,whole,Text.lines_unbroken _ unbroken]
  simp [definitionsFrom,defined,String.length_toList]

/-- A word of 600000 letters. -/
def endlessName : String := String.ofList (List.replicate 600000 'a')

/-- It is listed as the only definition of a grammar, but not found there. -/
theorem find?_endlessName : endlessName ≠ "" ∧
    (∀ c ∈ endlessName.toList, isWordPart c = true) ∧
    definitions (endlessName ++ "=") = [⟨⟨0,599999⟩,endlessName⟩] ∧
    find? (endlessName ++ "=") endlessName = none := by
  have letters : endlessName.toList = List.replicate 600000 'a' := String.toList_ofList
  have length : endlessName.length = 600000 := by
    rw [← String.length_toList,letters,List.length_replicate]
  have nonempty : endlessName ≠ "" := by
    rintro empty
    simp [empty] at length
  have word : ∀ c ∈ endlessName.toList, isWordPart c = true := by
    intro c member
    rw [letters] at member
    rw [List.eq_of_mem_replicate member]
    decide
  have bytes : endlessName.utf8ByteSize = 600000 := by
    rw [Text.utf8ByteSize_eq,letters,Text.byteLength_replicate]
    decide
  have listed := definitions_equals endlessName nonempty word
  rw [length] at listed
  refine ⟨nonempty,word,listed,find?_eq_none _ _ ?_⟩
  change decide (endlessName.utf8ByteSize ≤ longestName) = false
  rw [bytes]
  decide

end Grammar

end ParseScope
