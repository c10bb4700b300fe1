import ParseScope.Proofs.Attempt.Document
import ParseScope.Proofs.Document.Unordered
import ParseScope.Proofs.Json.Parts

/-!
The members of attempts and of compile errors. They come in any order, and those of an attempt may
also come without their names, in the order of their declaration.
-/
namespace ParseScope

open Document
open Json (Holds MemberText Outline ValueText)

theorem Grammar.CompileError.separate_shape : shape.Separate where
  names := by decide
  apart := by
    simp only [shape,List.pairwise_cons,List.forall_mem_cons,List.not_mem_nil,IsEmpty.forall_iff,
      implies_true,List.Pairwise.nil,and_true]
    and_intros
    all_goals exact Member.apart_of (fun _ _ => rfl) (fun _ _ => rfl) fun _ _ _ => rfl

/-- A compile error is the same in any order of its members, whatever else is among them. -/
theorem Grammar.CompileError.read_unordered (levels : Nat)
    (members extra others : List (String × Outline)) (distinct : (members.map Prod.fst).Nodup)
    (unknown : ∀ member ∈ extra, shape.find? member.1 = none)
    (sound : ∀ member ∈ extra, member.2.skipFault? = none) (perm : others.Perm (extra ++ members)) :
    (read levels (.object (.ofList others))).toOption =
      (read levels (.object (.ofList members))).toOption := by
  rw [read,read,toOption_map,toOption_map,
    separate_shape.read_perm levels members extra others distinct unknown sound perm]

namespace Attempt

/-- The names of the members in the order of their declaration. -/
def memberNames : List String := ["grammar","input","rules","trace","tree","compile_error"]

theorem separate_shape : shape.Separate where
  names := by decide
  apart := by
    simp only [shape,List.pairwise_cons,List.forall_mem_cons,List.not_mem_nil,IsEmpty.forall_iff,
      implies_true,List.Pairwise.nil,and_true]
    and_intros
    all_goals exact Member.apart_of (fun _ _ => rfl) (fun _ _ => rfl) fun _ _ _ => rfl

theorem optional_of_mem_shape : ∀ slot ∈ shape.members, slot.required = false := by
  simp [shape,Member.of]

theorem unset_of_mem_shape : ∀ slot ∈ shape.members, slot.isSet shape.empty = false := by
  simp [shape,Member.of]

theorem find?_shape_eq_none (name : String) (unknown : name ∉ memberNames) :
    shape.find? name = none := by
  apply List.find?_eq_none.mpr
  intro slot among
  have named : slot.name ∈ memberNames := List.mem_map_of_mem among
  simpa using ne_of_mem_of_not_mem named unknown

/-- Another document of what a document says: its members in any order, with any unknown ones among
them, or a list of the first members without their names. -/
inductive Restates (text other : String) : Prop
  | reordered (members extra others : List (String × Outline))
      (holds : Holds text (.object (.ofList members)))
      (holdsOther : Holds other (.object (.ofList others)))
      (distinct : (members.map Prod.fst).Nodup) (unknown : ∀ member ∈ extra, member.1 ∉ memberNames)
      (perm : others.Perm (extra ++ members))
  | listed (values : List Outline) (short : values.length ≤ memberNames.length)
      (holds : Holds text (.object (.ofList (memberNames.zip values))))
      (holdsOther : Holds other (.ofList values))

theorem restates_objectText (members extra others : List MemberText)
    (distinct : (members.map MemberText.name).Nodup)
    (unknown : ∀ part ∈ extra, part.name ∉ memberNames) (perm : others.Perm (extra ++ members)) :
    Restates (.ofList (Json.objectText members)) (.ofList (Json.objectText others)) := by
  refine .reordered _ (extra.map MemberText.member) _ (Json.holds_objectText members)
    (Json.holds_objectText others) ?_ ?_ ?_
  · rw [List.map_map]
    exact distinct
  · exact List.forall_mem_map.mpr unknown
  · rw [← List.map_append]
    exact perm.map _

/-- The members have the first names in their order. -/
theorem restates_listText (members : List MemberText)
    (names : members.map MemberText.name = memberNames.take members.length) :
    Restates (.ofList (Json.objectText members))
      (.ofList (Json.listText (members.map MemberText.value))) := by
  have short : members.length ≤ memberNames.length := by
    have lengths := congrArg List.length names
    rw [List.length_map,List.length_take] at lengths
    omega
  have zipped : memberNames.zip (members.map fun part => part.value.value) =
      members.map MemberText.member := by
    rw [List.zip_eq_zip_take_min,List.length_map,Nat.min_eq_right short,← names,
      List.take_of_length_le (by simp)]
    exact List.zip_map'
  have holds := Json.holds_objectText members
  have holdsList := Json.holds_listText (members.map MemberText.value)
  rw [← zipped] at holds
  rw [List.map_map] at holdsList
  exact .listed _ (by simpa using short) holds holdsList

/-- Documents that restate each other hold the same attempt or none. -/
theorem parse_restated (text other : String) (restates : Restates text other) :
    (parse other).toOption = (parse text).toOption := by
  simp only [parse,ofText,toOption_mapError]
  cases restates with
  | reordered members extra others holds holdsOther distinct unknown perm =>
    have sound : ∀ member ∈ extra, member.2.skipFault? = none := by
      intro member among
      exact holdsOther.skipFault?_member _ _ member (perm.symm.subset (by simp [among]))
    rw [readDocument_of_holds read _ _ holds,readDocument_of_holds read _ _ holdsOther,read,read,
      toOption_map,toOption_map]
    have unnamed := fun member among => find?_shape_eq_none member.1 (unknown member among)
    rw [separate_shape.read_perm maxLevels members extra others distinct unnamed sound perm]
  | listed values short holds holdsOther =>
    rw [readDocument_of_holds read _ _ holds,readDocument_of_holds read _ _ holdsOther,read,read]
    have same := separate_shape.read_list optional_of_mem_shape unset_of_mem_shape maxLevels values
      short
    exact congrArg (fun result => (result.map Draft.finish).toOption) same

/-- A grammar and an input with nothing to tell about them. -/
def bareAttempt : Attempt where
  grammar := "s = 'a'"
  input := "a"

def grammarPart : MemberText := .ofValue "grammar" (.string "s = 'a'") trivial

def inputPart : MemberText := .ofValue "input" (.string "a") trivial

/-- Nothing that an attempt has. -/
def notePart : MemberText := .ofValue "note" (.list [.null]) ⟨trivial,trivial⟩

theorem bareAttempt_restated :
    ∃ text other list, Restates text other ∧ Restates text list ∧
      parse text = .ok bareAttempt ∧ (parse other).toOption = some bareAttempt ∧
      (parse list).toOption = some bareAttempt := by
  have reordered := restates_objectText [grammarPart,inputPart] [notePart]
    [inputPart,notePart,grammarPart] (by decide) (by decide) (@List.perm_append_comm _ [_] [_,_])
  have listed := restates_listText [grammarPart,inputPart] rfl
  have parsed : parse (.ofList (Json.objectText [grammarPart,inputPart])) = .ok bareAttempt := by
    rw [parse,ofText,readDocument_of_holds read _ _ (Json.holds_objectText _)]
    rfl
  have same := parse_restated _ _ reordered
  have sameList := parse_restated _ _ listed
  rw [parsed] at same sameList
  exact ⟨_,_,_,reordered,listed,parsed,same,sameList⟩

end Attempt

end ParseScope
