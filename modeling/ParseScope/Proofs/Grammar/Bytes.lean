import ParseScope.Grammar.Patterns
import ParseScope.Proofs.Grammar.Listing
import ParseScope.Proofs.Text.Bytes

/-!
Definitions by byte index. A search through the UTF-8 form of a grammar tells where a name stands by
a byte index; turned into character offsets, its matches are the definitions that are found and
listed, and no index lies inside a character.
-/
namespace ParseScope.Grammar

open Text (byteLength Remains Splits offsetOfByte?)

/-- A name and the byte index at which it begins. -/
structure Match where
  byte : Nat
  name : List Char
  deriving DecidableEq, Repr

/-- The span of the name in a grammar; `none` when the index lies inside a character. -/
def Match.span? (grammar : String) (found : Match) : Option Span :=
  (offsetOfByte? grammar.toList found.byte).map fun first =>
    ⟨first, first + found.name.length - 1⟩

def Match.labelled? (grammar : String) (found : Match) : Option Labelled :=
  (found.span? grammar).map (⟨·, String.ofList found.name⟩)

/-- The name of `rule` in its first definition; `byte` is the index of the head of the text, and
`lineBegins` tells whether a line begins there. -/
def findMatchFrom? (rule : List Char) : Nat → Bool → List Char → Option Match
  | _, _, [] => none
  | byte, lineBegins, c :: rest =>
    match (if lineBegins then definitionAt? rule (c :: rest) else none) with
    | some blanks => some ⟨byte + byteLength ((c :: rest).take blanks), rule⟩
    | none => findMatchFrom? rule (byte + c.utf8Size) (c = '\n') rest

def findMatch? [Patterns] (grammar rule : String) : Option Match :=
  if rule.isEmpty || !Patterns.compiles rule then none
  else findMatchFrom? rule.toList 0 true grammar.toList

/-- The names of the definitions that one search meets when it goes on behind each of them, with
`inside` as in `searchFrom`. -/
def matchesFrom : Nat → Nat → Bool → List Char → List Match
  | _, _, _, [] => []
  | byte, inside + 1, _, c :: rest => matchesFrom (byte + c.utf8Size) inside (c = '\n') rest
  | byte, 0, lineBegins, c :: rest =>
    match (if lineBegins then definedName? (c :: rest) else none) with
    | some (blanks, name) =>
      let width := definitionWidth (c :: rest) blanks name
      ⟨byte + byteLength ((c :: rest).take blanks), name⟩ ::
        matchesFrom (byte + c.utf8Size) (width - 1) (c = '\n') rest
    | none => matchesFrom (byte + c.utf8Size) 0 (c = '\n') rest

def definitionMatches (grammar : String) : List Match := matchesFrom 0 0 true grammar.toList

theorem span?_of_remains {grammar : String} {rest : List Char} {offset byte : Nat}
    (remains : Remains grammar.toList offset byte rest) (blanks : Nat) (name : List Char)
    (inside : blanks ≤ rest.length) :
    (Match.mk (byte + byteLength (rest.take blanks)) name).span? grammar =
      some ⟨offset + blanks,offset + blanks + name.length - 1⟩ := by
  rw [← List.take_append_drop blanks rest] at remains
  have there := remains.append.offset
  rw [List.length_take,Nat.min_eq_left inside] at there
  rw [Match.span?,there]
  rfl

theorem map_span?_findMatchFrom? (grammar : String) (rule rest : List Char) (offset byte : Nat)
    (remains : Remains grammar.toList offset byte rest) (lineBegins : Bool) :
    (findMatchFrom? rule byte lineBegins rest).map (Match.span? grammar) =
      (findFrom? rule offset lineBegins rest).map fun first =>
        some ⟨first,first + rule.length - 1⟩ := by
  induction rest generalizing offset byte lineBegins with
  | nil => rfl
  | cons c rest ih =>
    -- Both searches try the same at each place, so they stop at the same one.
    rw [findMatchFrom?,findFrom?]
    cases found : (if lineBegins then definitionAt? rule (c :: rest) else none) with
    | none => exact ih _ _ remains.next _
    | some blanks =>
      obtain ⟨_,defined⟩ := Option.ite_none_right_eq_some.mp found
      obtain ⟨bound,_⟩ := indentOf?_eq_some rule (c :: rest) _ blanks defined
      have inside := Nat.le_trans bound (List.takeWhile_prefix _).length_le
      exact congrArg some (span?_of_remains remains blanks rule inside)

theorem map_labelled?_matchesFrom (grammar : String) (rest : List Char) (offset byte inside : Nat)
    (remains : Remains grammar.toList offset byte rest) (lineBegins : Bool) :
    (matchesFrom byte inside lineBegins rest).map (Match.labelled? grammar) =
      (searchFrom offset inside lineBegins rest).map some := by
  induction rest generalizing offset byte inside lineBegins with
  | nil => rfl
  | cons c rest ih =>
    cases inside with
    | succ inside => exact ih _ _ inside remains.next _
    | zero =>
      rw [matchesFrom,searchFrom]
      cases found : (if lineBegins then definedName? (c :: rest) else none) with
      | none => exact ih _ _ 0 remains.next _
      | some named =>
        obtain ⟨blanks,name⟩ := named
        obtain ⟨_,defined⟩ := Option.ite_none_right_eq_some.mp found
        obtain ⟨_,bound⟩ := definedName?_inside (c :: rest) blanks name defined
        have span := span?_of_remains remains blanks name (by omega)
        rw [List.map_cons,List.map_cons,Match.labelled?,span,ih _ _ _ remains.next _]
        rfl

/-- The offset of a byte index is the number of characters before it, and the length past the end.
There is none exactly inside a character, where the form has a byte that is no first one, and later
boundaries have greater offsets. So each match of a search by byte index has a span: that of the
rule that is found, and those of the definitions that are listed. -/
theorem offsetOfByte?_by_characters [Patterns] (text : String) :
    (∀ k ≤ text.length,
      offsetOfByte? text.toList (String.ofList (text.toList.take k)).utf8ByteSize = some k) ∧
    (∀ byte, text.utf8ByteSize < byte → offsetOfByte? text.toList byte = some text.length) ∧
    (∀ byte, offsetOfByte? text.toList byte = none ↔
      byte < text.utf8ByteSize ∧ Splits text.toList byte) ∧
    (∀ byte, Splits text.toList byte ↔
      ∃ inside : (⟨byte⟩ : String.Pos.Raw) < text.rawEndPos,
        ¬ (text.getUTF8Byte ⟨byte⟩ inside).IsUTF8FirstByte) ∧
    (∀ first second, String.Pos.Raw.IsValid text ⟨first⟩ → String.Pos.Raw.IsValid text ⟨second⟩ →
      first < second → ∃ m n, offsetOfByte? text.toList first = some m ∧
        offsetOfByte? text.toList second = some n ∧ m < n) ∧
    (∀ rule, (findMatch? text rule).map (Match.span? text) = (find? text rule).map some) ∧
    (definitionMatches text).map (Match.labelled? text) = (definitions text).map some := by
  refine ⟨fun k bound => ?_,fun byte past => ?_,fun byte => ?_,Text.splits_iff_getUTF8Byte text,
    Text.offsetOfByte?_ascends text,fun rule => ?_,?_⟩
  · have there := (Text.remains_append (text.toList.take k) (text.toList.drop k)).offset
    rwa [List.take_append_drop,List.length_take,String.length_toList,Nat.min_eq_left bound,
      ← Text.utf8ByteSize_ofList] at there
  · rw [Text.utf8ByteSize_eq] at past
    rw [Text.offsetOfByte?_past _ byte (Nat.le_of_lt past),String.length_toList]
  · rw [Text.offsetOfByte?_eq_none_iff,Text.utf8ByteSize_eq]
    exact ⟨fun splits => ⟨splits.lt,splits⟩,And.right⟩
  · rw [findMatch?,find?]
    split
    · rfl
    · rw [map_span?_findMatchFrom? text rule.toList _ 0 0 .start true,search?,Option.map_map]
      rfl
  · rw [definitionMatches,map_labelled?_matchesFrom text _ 0 0 0 .start true,
      searchFrom_eq_definitionsFrom,definitions]

/-- Two rules with names of two bytes, and a character of three bytes between them. -/
def wideGrammar : String := "é='€'\n\tж='😀'"

theorem wideGrammar_by_characters :
    offsetOfByte? wideGrammar.toList 10 = some 7 ∧ offsetOfByte? wideGrammar.toList 20 = some 12 ∧
    Splits wideGrammar.toList 5 ∧
    (∃ m n, offsetOfByte? wideGrammar.toList 4 = some m ∧
      offsetOfByte? wideGrammar.toList 7 = some n ∧ m < n) ∧
    findMatch? wideGrammar "ж" = some ⟨10,['ж']⟩ ∧
    (Match.mk 10 ['ж']).span? wideGrammar = some ⟨7,7⟩ := by
  obtain ⟨counts,past,inside,_,ascends,found,_⟩ := offsetOfByte?_by_characters wideGrammar
  have size : (String.ofList (wideGrammar.toList.take 7)).utf8ByteSize = 10 := by decide
  have matched : findMatch? wideGrammar "ж" = some ⟨10,['ж']⟩ := by decide
  have before : String.Pos.Raw.IsValid wideGrammar ⟨4⟩ :=
    (Text.isValid_iff wideGrammar 4).mpr ⟨"é='".toList,_,rfl,rfl⟩
  have behind : String.Pos.Raw.IsValid wideGrammar ⟨7⟩ :=
    (Text.isValid_iff wideGrammar 7).mpr ⟨"é='€".toList,_,rfl,rfl⟩
  have span := found "ж"
  rw [matched] at span
  exact ⟨size ▸ counts 7 (by decide),past 20 (by decide),((inside 5).mp (by decide)).2,
    ascends 4 7 before behind (by decide),matched,Option.some.inj (span.trans (by decide))⟩

end ParseScope.Grammar
