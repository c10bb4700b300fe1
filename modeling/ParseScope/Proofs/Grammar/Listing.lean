import ParseScope.Proofs.Grammar.Places
import ParseScope.Proofs.Grammar.Search
import ParseScope.Proofs.Picks

/-!
The list of all definitions, line by line. A search that goes on behind each definition it meets
finds no second one on a line, and only what stands on the line matters; so the list has one entry
for each line that defines a word, in their order, and grows by those of a text put behind whole
lines.
-/
namespace ParseScope

def Span.shift (span : Span) (offset : Nat) : Span := ⟨span.first + offset, span.last + offset⟩

def Labelled.shift (labelled : Labelled) (offset : Nat) : Labelled :=
  ⟨labelled.span.shift offset, labelled.label⟩

namespace Grammar

open Text (isBlank isWordPart)

/-- On the line that begins at `line` the text defines the label, a word that goes on for as long as
it can, and the span is where it stands. -/
structure DefinesWord (text : List Char) (line : Nat) (labelled : Labelled) : Prop where
  definesAt : DefinesAt text labelled.label.toList line labelled.span.first
  nonempty : labelled.label ≠ ""
  word : ∀ c ∈ labelled.label.toList, isWordPart c = true
  maximal : ∀ c, text[labelled.span.last + 1]? = some c → isWordPart c = false
  width : labelled.span.last + 1 = labelled.span.first + labelled.label.length

/-- One entry for each line from `start` on that defines a word and none for the others, in the
order of the lines. -/
abbrev Lists (text : List Char) (start : Nat) (entries : List Labelled) : Prop :=
  Picks (fun line => ∃ labelled, DefinesWord text line labelled) (DefinesWord text) start entries

/-- The entry for what a line that begins at `offset` defines. -/
def entry (offset : Nat) (found : Nat × List Char) : Labelled :=
  ⟨⟨offset + found.1, offset + found.1 + found.2.length - 1⟩, String.ofList found.2⟩

theorem definitionsFrom_cons (offset : Nat) (line : List Char) (rest : List (List Char)) :
    definitionsFrom offset (line :: rest) = ((definedName? line).map (entry offset)).toList ++
      definitionsFrom (offset + line.length + 1) rest := by
  rw [definitionsFrom]
  cases definedName? line with
  | none => rfl
  | some found => rfl

/-! ### What a line defines -/

/-- The word of a definition ends where the blanks before `=` begin, or at the `=`. -/
theorem takeWhile_isWordPart_gap (gap after : List Char) (blank : ∀ c ∈ gap, isBlank c = true) :
    (gap ++ '=' :: after).takeWhile isWordPart = [] ∧
    (gap ++ '=' :: after).dropWhile isWordPart = gap ++ '=' :: after :=
  definesNext_stops _ ((definesNext_iff _).mpr ⟨gap,after,rfl,blank⟩)

theorem definedName?_eq_some_iff (text : List Char) (blanks : Nat) (name : List Char) :
    definedName? text = some (blanks,name) ↔
      DefinesAfter blanks name text ∧ name ≠ [] ∧ ∀ c ∈ name, isWordPart c = true := by
  simp only [definedName?,Option.ite_none_right_eq_some,Bool.and_eq_true,Bool.not_eq_true',
    List.isEmpty_eq_false_iff,Option.some.injEq,Prod.mk.injEq]
  constructor
  · rintro ⟨⟨nonempty,defines⟩,rfl,rfl⟩
    obtain ⟨gap,after,rest,blank⟩ := (definesNext_iff _).mp defines
    refine ⟨⟨text.takeWhile isBlank,gap,after,?_,rfl,?_,blank⟩,nonempty,?_⟩
    · rw [← rest,List.takeWhile_append_dropWhile,List.takeWhile_append_dropWhile]
    · exact fun c member => List.mem_takeWhile_imp member
    · exact fun c member => List.mem_takeWhile_imp member
  · rintro ⟨⟨indent,gap,after,rfl,rfl,indentBlank,blank⟩,nonempty,word⟩
    obtain ⟨noMore,rest⟩ := takeWhile_isWordPart_gap gap after blank
    -- The word does not begin with a blank, so the indentation is all of the blanks.
    obtain ⟨c,more,rfl⟩ := List.exists_cons_of_ne_nil nonempty
    have solid : isBlank c = false := by
      rw [Bool.eq_false_iff]
      intro begins
      have noWord := Bool.eq_false_iff.mp (Text.isWordPart_of_isBlank c begins)
      exact noWord (word c List.mem_cons_self)
    have stops : ¬ isBlank c = true := by simp [solid]
    rw [List.takeWhile_append_of_pos indentBlank,List.dropWhile_append_of_pos indentBlank,
      List.cons_append,List.takeWhile_cons_of_neg stops,List.dropWhile_cons_of_neg stops,
      ← List.cons_append,List.takeWhile_append_of_pos word,List.dropWhile_append_of_pos word,noMore,
      rest,List.append_nil,List.append_nil]
    exact ⟨⟨nonempty,(definesNext_iff _).mpr ⟨gap,after,rfl,blank⟩⟩,rfl,rfl⟩

/-- The word is not cut short. -/
theorem isWordPart_gap (gap after : List Char) (blank : ∀ c ∈ gap, isBlank c = true) (c : Char)
    (next : (gap ++ '=' :: after).head? = some c) : isWordPart c = false := by
  have stops := (takeWhile_isWordPart_gap gap after blank).1
  obtain ⟨more,rest⟩ := List.head?_eq_some_iff.mp next
  rw [rest] at stops
  rw [Bool.eq_false_iff]
  intro word
  rw [List.takeWhile_cons_of_pos word] at stops
  exact List.cons_ne_nil _ _ stops

/-- What a line defines is what is found at its head. -/
theorem definesWord_iff (text : List Char) (line : Nat) (labelled : Labelled) :
    DefinesWord text line labelled ↔ LineBegins text line ∧
      ∃ found, definedName? (text.drop line) = some found ∧ labelled = entry line found := by
  constructor
  · obtain ⟨⟨first,last⟩,label⟩ := labelled
    rintro ⟨⟨begins,blanks,rfl,defines⟩,nonempty,word,_,width⟩
    have named : label.toList ≠ [] := mt String.toList_eq_nil_iff.mp nonempty
    refine ⟨begins,_,(definedName?_eq_some_iff _ blanks _).mpr ⟨defines,named,word⟩,?_⟩
    simp only [entry,String.length_toList,String.ofList_toList,← width,Nat.add_sub_cancel]
  · rintro ⟨begins,⟨blanks,name⟩,defined,rfl⟩
    obtain ⟨defines,nonempty,word⟩ := (definedName?_eq_some_iff _ _ _).mp defined
    have positive := List.length_pos_iff.mpr nonempty
    have last : line + blanks + name.length - 1 + 1 = line + blanks + name.length := by omega
    obtain ⟨gap,after,rest,blank⟩ := defines.drop
    refine ⟨⟨begins,blanks,rfl,?_⟩,?_,?_,fun c next => ?_,?_⟩
    · rwa [entry,String.toList_ofList]
    · rwa [entry,ne_eq,← String.toList_eq_nil_iff,String.toList_ofList]
    · rwa [entry,String.toList_ofList]
    · rw [entry,last,← List.getElem?_drop,← List.drop_drop,rest,
        List.getElem?_append_right (Nat.le_refl _),Nat.sub_self,← List.head?_eq_getElem?] at next
      exact isWordPart_gap gap after blank c next
    · simp only [entry,last,String.length_ofList]

/-- No line begins inside a line, and none after the last one. -/
theorem lineBegins_past (text line more : List Char) (start other : Nat)
    (remaining : text.drop start = line ++ more) (unbroken : '\n' ∉ line) (past : start < other)
    (begins : LineBegins text other) : start + line.length < other ∧ more ≠ [] := by
  obtain ⟨before,rfl⟩ := Nat.exists_eq_add_of_lt past
  rw [LineBegins,← List.getElem?_drop,remaining] at begins
  have outside : line.length ≤ before := by
    apply Nat.le_of_not_lt
    intro inside
    rw [List.getElem?_append_left inside] at begins
    exact unbroken (List.mem_of_getElem? begins)
  rw [List.getElem?_append_right outside] at begins
  refine ⟨by omega,?_⟩
  rintro rfl
  simp at begins

/-! ### One search through the text -/

/-- How far the definition at the head of the text reaches, its `=` included. -/
def definitionWidth (text : List Char) (blanks : Nat) (name : List Char) : Nat :=
  blanks + name.length + ((text.drop (blanks + name.length)).takeWhile isBlank).length + 1

/-- The definitions that a search through the text at `offset` meets when it goes on behind each one:
`inside` is how much is left of the last, `lineBegins` whether a line begins here. What is tried at
a place is the whole rest of the text, not only the line. -/
def searchFrom : Nat → Nat → Bool → List Char → List Labelled
  | _, _, _, [] => []
  | offset, inside + 1, _, c :: rest => searchFrom (offset + 1) inside (c = '\n') rest
  | offset, 0, lineBegins, c :: rest =>
    match (if lineBegins then definedName? (c :: rest) else none) with
    | some (blanks, name) =>
      let width := definitionWidth (c :: rest) blanks name
      entry offset (blanks, name) :: searchFrom (offset + 1) (width - 1) (c = '\n') rest
    | none => searchFrom (offset + 1) 0 (c = '\n') rest

theorem definitionWidth_le (line more : List Char) (blanks : Nat) (name : List Char)
    (defined : definedName? line = some (blanks,name)) :
    definitionWidth (line ++ more) blanks name ≤ line.length := by
  obtain ⟨⟨indent,gap,after,rfl,rfl,_,blank⟩,_⟩ := (definedName?_eq_some_iff _ _ _).mp defined
  have behind : (indent ++ (name ++ (gap ++ '=' :: after)) ++ more).drop
      (indent.length + name.length) = gap ++ '=' :: (after ++ more) := by
    rw [← List.drop_drop,List.append_assoc,List.drop_left,List.append_assoc,List.drop_left,
      List.append_assoc,List.cons_append]
  have width : ((gap ++ '=' :: (after ++ more)).takeWhile isBlank).length = gap.length := by
    rw [List.takeWhile_append_of_pos blank,List.takeWhile_cons_of_neg (by decide),List.append_nil]
  rw [definitionWidth,behind,width]
  simp only [List.length_append,List.length_cons]
  omega

/-- What is left of a line is passed by. -/
theorem searchFrom_pass (line more : List Char) (unbroken : '\n' ∉ line) (offset inside : Nat)
    (bound : inside ≤ line.length) : searchFrom offset inside false (line ++ more) =
      searchFrom (offset + line.length) 0 false more := by
  induction line generalizing offset inside with
  | nil =>
    obtain rfl := Nat.le_zero.mp bound
    rfl
  | cons c line ih =>
    obtain ⟨other,unbroken⟩ := List.ne_and_not_mem_of_not_mem_cons unbroken
    have next : offset + (c :: line).length = offset + 1 + line.length := by
      rw [List.length_cons]
      omega
    rw [next,List.cons_append]
    cases inside with
    | zero =>
      rw [searchFrom,decide_eq_false (Ne.symm other)]
      exact ih unbroken (offset + 1) 0 (Nat.zero_le _)
    | succ inside =>
      rw [searchFrom,decide_eq_false (Ne.symm other)]
      exact ih unbroken (offset + 1) inside (Nat.le_of_succ_le_succ bound)

/-- On each line the search meets what the line defines. -/
theorem searchFrom_line (line more : List Char) (unbroken : '\n' ∉ line) (offset : Nat)
    (same : definedName? (line ++ more) = definedName? line) :
    searchFrom offset 0 true (line ++ more) = ((definedName? line).map (entry offset)).toList ++
      searchFrom (offset + line.length) 0 false more := by
  cases line with
  | nil =>
    cases more with
    | nil => rfl
    | cons c more =>
      rw [List.nil_append] at same ⊢
      rw [searchFrom,if_pos rfl,same]
      rfl
  | cons c line =>
    obtain ⟨other,unbroken⟩ := List.ne_and_not_mem_of_not_mem_cons unbroken
    have next : offset + (c :: line).length = offset + 1 + line.length := by
      rw [List.length_cons]
      omega
    rw [List.cons_append] at same ⊢
    rw [next,searchFrom,if_pos rfl,same,decide_eq_false (Ne.symm other)]
    cases defined : definedName? (c :: line) with
    | none => exact searchFrom_pass line more unbroken (offset + 1) 0 (Nat.zero_le _)
    | some found =>
      have width := definitionWidth_le (c :: line) more found.1 found.2 defined
      exact congrArg (entry offset found :: ·)
        (searchFrom_pass line more unbroken (offset + 1) _ (Nat.sub_le_of_le_add width))

/-- So searching the whole text gives what its lines define one by one. -/
theorem searchFrom_eq_definitionsFrom (offset : Nat) (text : List Char) :
    searchFrom offset 0 true text = definitionsFrom offset (Text.lines text) := by
  induction text using Text.byLines generalizing offset with
  | last line unbroken =>
    have only := searchFrom_line line [] unbroken offset (by rw [List.append_nil])
    rw [List.append_nil] at only
    rw [only,Text.lines_unbroken line unbroken,definitionsFrom_cons]
    rfl
  | ended line rest unbroken ih =>
    rw [searchFrom_line line _ unbroken offset (definedName?_feed line rest),
      Text.lines_feed line rest unbroken,definitionsFrom_cons,← ih]
    rfl

/-! ### All lines -/

/-- To the entries of later lines comes what a line defines, if anything. -/
theorem lists_entry (text line : List Char) (start : Nat) (begins : LineBegins text start)
    (here : definedName? (text.drop start) = definedName? line) (later : List Labelled)
    (lists : Lists text (start + 1) later) :
    Lists text start (((definedName? line).map (entry start)).toList ++ later) := by
  cases defined : definedName? line with
  | none =>
    refine lists.skip (Nat.le_succ start) fun place inside less => ?_
    obtain rfl := Nat.le_antisymm inside (Nat.le_of_lt_succ less)
    rintro ⟨labelled,defines⟩
    obtain ⟨_,found,some,_⟩ := (definesWord_iff text start labelled).mp defines
    rw [here,defined] at some
    exact nomatch some
  | some found =>
    have defines : DefinesWord text start (entry start found) :=
      (definesWord_iff text start _).mpr ⟨begins,found,here.trans defined,rfl⟩
    exact lists.take ⟨_,defines⟩ _ defines

theorem lists_definitionsFrom (text rest : List Char) (start : Nat)
    (remaining : text.drop start = rest) (begins : LineBegins text start) :
    Lists text start (definitionsFrom start (Text.lines rest)) := by
  induction rest using Text.byLines generalizing start with
  | last line unbroken =>
    rw [Text.lines_unbroken line unbroken,definitionsFrom_cons]
    refine lists_entry text line start begins (congrArg definedName? remaining) _ (.empty ?_)
    rintro place past ⟨_,⟨begins,_⟩,_⟩
    rw [← List.append_nil line] at remaining
    exact (lineBegins_past text line [] start place remaining unbroken past begins).2 rfl
  | ended line rest unbroken ih =>
    have feed : LineBegins text (start + line.length + 1) := by
      rw [LineBegins,← List.getElem?_drop,remaining,List.getElem?_append_right (Nat.le_refl _),
        Nat.sub_self]
      rfl
    have following : text.drop (start + line.length + 1) = rest := by
      rw [Nat.add_assoc,← List.drop_drop,remaining,← List.drop_drop,List.drop_left]
      rfl
    rw [Text.lines_feed line rest unbroken,definitionsFrom_cons]
    refine lists_entry text line start begins ?_ _ ?_
    · rw [remaining,definedName?_feed]
    · refine (ih _ following feed).skip (by omega) fun place inside less => ?_
      rintro ⟨_,⟨begins,_⟩,_⟩
      have past := (lineBegins_past text line _ start place remaining unbroken inside begins).1
      omega

/-- The entries of the lines from `offset` on ascend and do not overlap. -/
theorem definitionsFrom_ascend (offset : Nat) (lines : List (List Char)) :
    (∀ labelled ∈ definitionsFrom offset lines, offset ≤ labelled.span.first) ∧
      (definitionsFrom offset lines).Pairwise
        fun earlier later => earlier.span.last < later.span.first := by
  induction lines generalizing offset with
  | nil => simp [definitionsFrom]
  | cons line rest ih =>
    obtain ⟨bounds,ascend⟩ := ih (offset + line.length + 1)
    rw [definitionsFrom_cons]
    cases defined : definedName? line with
    | none =>
      refine ⟨fun labelled member => ?_,ascend⟩
      have bound := bounds labelled member
      omega
    | some found =>
      obtain ⟨nonempty,inside⟩ := definedName?_inside line found.1 found.2 defined
      have positive := List.length_pos_iff.mpr nonempty
      simp only [Option.map_some,Option.toList_some,List.cons_append,List.nil_append,List.mem_cons,
        forall_eq_or_imp,List.pairwise_cons,entry]
      refine ⟨⟨Nat.le_add_right _ _,fun other member => ?_⟩,fun other member => ?_,ascend⟩
      · have bound := bounds other member
        omega
      · have bound := bounds other member
        omega

/-! ### One text behind another -/

theorem entry_shift (offset more : Nat) (found : Nat × List Char) (nonempty : found.2 ≠ []) :
    entry (offset + more) found = (entry offset found).shift more := by
  have positive := List.length_pos_iff.mpr nonempty
  simp only [entry,Labelled.shift,Span.shift,Labelled.mk.injEq,Span.mk.injEq,and_true]
  omega

theorem definitionsFrom_shift (offset more : Nat) (lines : List (List Char)) :
    definitionsFrom (offset + more) lines = (definitionsFrom offset lines).map (·.shift more) := by
  induction lines generalizing offset with
  | nil => rfl
  | cons line rest ih =>
    have next : offset + more + line.length + 1 = offset + line.length + 1 + more := by omega
    rw [definitionsFrom_cons,definitionsFrom_cons,List.map_append,next,ih]
    cases defined : definedName? line with
    | none => rfl
    | some found =>
      have nonempty := (definedName?_inside line found.1 found.2 defined).1
      simp [entry_shift offset more found nonempty]

/-- Behind whole lines a text defines what it does alone, further on. -/
theorem definitionsFrom_append (offset : Nat) (front more : List Char)
    (ended : front = [] ∨ front.getLast? = some '\n') :
    definitionsFrom offset (Text.lines (front ++ more)) =
      definitionsFrom offset (Text.lines front) ++
        definitionsFrom (offset + front.length) (Text.lines more) := by
  induction front using Text.byLines generalizing offset with
  | last line unbroken =>
    obtain rfl : line = [] := ended.resolve_right fun feed => unbroken (List.mem_of_getLast? feed)
    rfl
  | ended line rest unbroken ih =>
    have restEnded : rest = [] ∨ rest.getLast? = some '\n' := by
      rcases List.eq_nil_or_concat rest with rfl | ⟨body,last,rfl⟩
      · exact .inl rfl
      · right
        simpa [List.getLast?_append,List.getLast?_cons] using ended
    rw [List.append_assoc,List.cons_append,Text.lines_feed _ _ unbroken,
      Text.lines_feed _ _ unbroken,definitionsFrom_cons,definitionsFrom_cons,List.append_assoc,
      ih _ restEnded,List.length_append,List.length_cons]
    congr 3
    omega

/-- The definitions that one search through a grammar meets are those of its lines: there is one
entry for each line that begins with blanks, a whole word, blanks and `=`, and none for any other
line, in text order. Each label stands at its span, and the spans ascend and do not overlap. So what
is put behind whole lines adds its own definitions, further on. -/
theorem definitions_by_lines (grammar : String) :
    definitions grammar = searchFrom 0 0 true grammar.toList ∧
    Lists grammar.toList 0 (definitions grammar) ∧
    (∀ labelled ∈ definitions grammar, labelled.span.first ≤ labelled.span.last ∧
      Text.slice grammar.toList labelled.span.first (labelled.span.last + 1) =
        labelled.label.toList) ∧
    (definitions grammar).Pairwise (fun earlier later => earlier.span.last < later.span.first) ∧
    ∀ more : String, grammar = "" ∨ grammar.toList.getLast? = some '\n' →
      definitions (grammar ++ more) =
        definitions grammar ++ (definitions more).map (·.shift grammar.length) := by
  have lists := lists_definitionsFrom grammar.toList grammar.toList 0 rfl trivial
  refine ⟨(searchFrom_eq_definitionsFrom 0 _).symm,lists,fun labelled member => ?_,
    (definitionsFrom_ascend 0 _).2,fun more ended => ?_⟩
  · obtain ⟨line,defines⟩ := lists.exists_place labelled member
    have positive : 0 < labelled.label.length :=
      Nat.pos_of_ne_zero (mt String.length_eq_zero_iff.mp defines.nonempty)
    have width := defines.width
    have holds := defines.definesAt.slice
    rw [String.length_toList,← width] at holds
    exact ⟨by omega,holds⟩
  · have ended : grammar.toList = [] ∨ grammar.toList.getLast? = some '\n' :=
      ended.imp_left String.toList_eq_nil_iff.mpr
    rw [definitions,definitions,definitions,String.toList_append,definitionsFrom_append 0 _ _ ended,
      definitionsFrom_shift,String.length_toList]

theorem definitions_by_lines_behind :
    definitions "\té = 'x'\r\n==\n" = [⟨⟨1,1⟩,"é"⟩] ∧
    definitions ("\té = 'x'\r\n==\n" ++ "ab=c=d") = [⟨⟨1,1⟩,"é"⟩,⟨⟨13,14⟩,"ab"⟩] := by
  obtain ⟨_,_,_,_,behind⟩ := definitions_by_lines "\té = 'x'\r\n==\n"
  exact ⟨by decide,(behind "ab=c=d" (.inr (by decide))).trans (by decide)⟩

end Grammar

end ParseScope
