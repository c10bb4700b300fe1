import ParseScope.Grammar.Definition
import ParseScope.Proofs.Text.Lines

/-!
Where definitions stand. The name of a defined rule lies inside the text of the grammar, since at
least the `=` follows it.
-/
namespace ParseScope.Grammar

theorem length_pos_of_definesNext (text : List Char) (defines : definesNext text = true) :
    0 < text.length := by
  cases text with
  | nil => simp [definesNext] at defines
  | cons c rest => exact Nat.succ_pos rest.length

/-- The span of a name in a text of `length` characters, which goes on after the name. -/
structure Spans (length : Nat) (name : List Char) (span : Span) : Prop where
  width : span.last + 1 = span.first + name.length
  inside : span.last + 1 < length
  nonempty : name ≠ []

/-- The span covers two positions when the name has two characters. -/
theorem Spans.first_lt_last_iff {length : Nat} {name : List Char} {span : Span}
    (spans : Spans length name span) : span.first < span.last ↔ 2 ≤ name.length := by
  have width := spans.width
  omega

theorem definedName?_inside (line : List Char) (blanks : Nat) (name : List Char)
    (defined : definedName? line = some (blanks,name)) :
    name ≠ [] ∧ blanks + name.length < line.length := by
  simp only [definedName?,Option.ite_none_right_eq_some,Bool.and_eq_true,Bool.not_eq_true',
    List.isEmpty_eq_false_iff,Option.some.injEq,Prod.mk.injEq] at defined
  obtain ⟨⟨nonempty,defines⟩,rfl,rfl⟩ := defined
  have blanksSplit := congrArg List.length
    (List.takeWhile_append_dropWhile (p := Text.isBlank) (l := line))
  have nameSplit := congrArg List.length
    (List.takeWhile_append_dropWhile (p := Text.isWordPart) (l := line.dropWhile Text.isBlank))
  have more := length_pos_of_definesNext _ defines
  simp only [List.length_append] at blanksSplit nameSplit
  exact ⟨nonempty,by omega⟩

theorem spans_of_mem_definitionsFrom (offset : Nat) (lines : List (List Char))
    (labelled : Labelled) (member : labelled ∈ definitionsFrom offset lines) :
    Spans (offset + (lines.flatMap fun line => line ++ ['\n']).length - 1) labelled.label.toList
      labelled.span := by
  induction lines generalizing offset with
  | nil => simp [definitionsFrom] at member
  | cons line rest ih =>
    have later (more : labelled ∈ definitionsFrom (offset + line.length + 1) rest) :
        Spans (offset + ((line :: rest).flatMap fun line => line ++ ['\n']).length - 1)
          labelled.label.toList labelled.span := by
      obtain ⟨width,inside,nonempty⟩ := ih _ more
      refine ⟨width,?_,nonempty⟩
      simp only [List.flatMap_cons,List.length_append,List.length_singleton]
      omega
    rw [definitionsFrom] at member
    cases defined : definedName? line with
    | none => exact later (by simpa [defined] using member)
    | some found =>
      obtain ⟨blanks,name⟩ := found
      simp only [defined,List.mem_cons] at member
      rcases member with rfl | member
      · obtain ⟨nonempty,inside⟩ := definedName?_inside line blanks name defined
        have positive := List.length_pos_iff.mpr nonempty
        constructor
        · simp only [String.toList_ofList]
          omega
        · simp only [List.flatMap_cons,List.length_append,List.length_singleton]
          omega
        · simpa using nonempty
      · exact later member

/-- A definition that is reported has its label as its name. -/
theorem spans_of_mem_definitions (grammar : String) (labelled : Labelled)
    (member : labelled ∈ definitions grammar) :
    Spans grammar.toList.length labelled.label.toList labelled.span := by
  have spans := spans_of_mem_definitionsFrom 0 _ labelled member
  rwa [Text.flatMap_lines,List.length_append,List.length_singleton,Nat.zero_add,
    Nat.add_sub_cancel] at spans

theorem length_lt_of_beginsDefinition (rule text : List Char)
    (begins : beginsDefinition rule text = true) : rule.length < text.length := by
  simp only [beginsDefinition,Bool.and_eq_true] at begins
  have more := length_pos_of_definesNext _ begins.2
  rw [List.length_drop] at more
  omega

theorem indentOf?_eq_some (rule text : List Char) (most blanks : Nat)
    (found : indentOf? rule text most = some blanks) :
    blanks ≤ most ∧ beginsDefinition rule (text.drop blanks) = true ∧
      ∀ more ≤ most, beginsDefinition rule (text.drop more) = true → more ≤ blanks := by
  induction most with
  | zero =>
    obtain ⟨begins,rfl⟩ := by simpa [indentOf?] using found
    exact ⟨Nat.le_refl 0,begins,fun more bound _ => bound⟩
  | succ most ih =>
    rw [indentOf?] at found
    split at found
    · next begins =>
      obtain rfl := Option.some.inj found
      exact ⟨Nat.le_refl _,begins,fun more bound _ => bound⟩
    · next fails =>
      obtain ⟨bound,begins,greatest⟩ := ih found
      refine ⟨Nat.le_succ_of_le bound,begins,fun more moreBound others => ?_⟩
      rcases Nat.le_or_eq_of_le_succ moreBound with less | rfl
      · exact greatest more less others
      · exact absurd others fails

theorem findFrom?_inside (rule : List Char) (offset : Nat) (lineBegins : Bool) (text : List Char)
    (first : Nat) (found : findFrom? rule offset lineBegins text = some first) :
    first + rule.length < offset + text.length := by
  fun_induction findFrom? rule offset lineBegins text with
  | case1 => simp at found
  | case2 offset lineBegins c rest blanks defined =>
    obtain rfl := Option.some.inj found
    split at defined
    · obtain ⟨_,begins,_⟩ := indentOf?_eq_some rule (c :: rest) _ blanks defined
      have shorter := length_lt_of_beginsDefinition _ _ begins
      rw [List.length_drop] at shorter
      omega
    · simp at defined
  | case3 offset lineBegins c rest undefined ih =>
    have inside := ih found
    simp only [List.length_cons]
    omega

/-- A rule that is found has its name at the span. -/
theorem spans_of_find? [Patterns] (grammar rule : String) (span : Span)
    (found : find? grammar rule = some span) : Spans grammar.toList.length rule.toList span := by
  obtain ⟨possible,searched⟩ := Option.ite_none_left_eq_some.mp found
  obtain ⟨first,begins,rfl⟩ := Option.map_eq_some_iff.mp searched
  have nonempty : rule.toList ≠ [] := by
    rintro empty
    simp [String.toList_eq_nil_iff.mp empty] at possible
  have positive := List.length_pos_iff.mpr nonempty
  have inside := findFrom?_inside rule.toList 0 true grammar.toList first begins
  exact ⟨by simp only; omega,by simp only; omega,nonempty⟩

end ParseScope.Grammar
