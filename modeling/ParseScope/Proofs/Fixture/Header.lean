import Mathlib.Data.List.Induction
import Mathlib.Logic.Relation
import ParseScope.Proofs.Fixture.Layout
import ParseScope.Proofs.Last
import ParseScope.Proofs.NameMap
import ParseScope.Proofs.Text.Trim

/-!
What a header means. For each key the last of its lines counts, and nothing else: lines of other keys
may be moved across it, and lines that say nothing may be added.
-/
namespace ParseScope.Fixture

/-- The line gives `value` to `key`: without its line break it is the key, a colon, and the value
between blanks. -/
structure IsField (key : String) (line : List Char) (value : String) : Prop where
  nonempty : key.toList ≠ []
  word : ∀ c ∈ key.toList, isKeyChar c = true
  told : ∃ body rest, Text.TrimsEnd Text.isLineBreak line body ∧ body = key.toList ++ ':' :: rest ∧
    Text.Trims Text.isBlank rest value.toList

/-- The fixture has what the lines of its header say, for each key the last that says it. -/
structure Tells (lines : List (List Char)) (fixture : Fixture) : Prop where
  title : Last (IsField "title") lines fixture.title
  highlighted : fixture.highlighted = true ↔ Last (IsField "highlighted") lines "true"
  fields : ∀ key value, fixture.fields.get? key = some value ↔
    key ≠ "title" ∧ key ≠ "highlighted" ∧ Last (IsField key) lines value

/-- A whole line that is blank or a comment. -/
structure SaysNothing (line : List Char) : Prop where
  ended : Text.Ended line
  silent : (∀ c ∈ line, Text.isWhiteSpace c = true) ∨ ∃ text, line = '#' :: text

/-- One change of the lines of a header that leaves its meaning as it is. -/
inductive Rearranged : List (List Char) → List (List Char) → Prop
  | swap (before : List (List Char)) (a b : List Char) (after : List (List Char))
      (apart : ∀ key given other, IsField key a given → ¬ IsField key b other) :
      Rearranged (before ++ a :: b :: after) (before ++ b :: a :: after)
  | insert (before : List (List Char)) (line : List Char) (after : List (List Char))
      (nothing : SaysNothing line) : Rearranged (before ++ after) (before ++ line :: after)

/-- The text of the parts, the header replaced. -/
def Layout.textWith (layout : Layout) (header : List (List Char)) : String :=
  String.ofList { layout with header }.lines.flatten

/-! ### Fields -/

theorem isField_iff (key : String) (line : List Char) (value : String) :
    headerField? line = some (key,value) ↔ IsField key line value := by
  rw [headerField?,Option.ite_none_left_eq_some]
  constructor
  · rintro ⟨_,found⟩
    have keyed := (field?_key_iff key.toList (withoutBreak line)).mp ⟨value,by simpa using found⟩
    obtain ⟨nonempty,word,rest,split⟩ := keyed
    rw [split,field?_of_key rest nonempty word,Option.some.injEq,Prod.mk.injEq] at found
    refine ⟨nonempty,word,withoutBreak line,rest,Text.trimEnd_eq_iff.mp rfl,split,?_⟩
    rw [← found.2,String.toList_ofList]
    exact Text.trim_eq_iff.mp rfl
  · rintro ⟨nonempty,word,body,rest,trims,rfl,told⟩
    have split : withoutBreak line = key.toList ++ ':' :: rest := Text.trimEnd_eq_iff.mpr trims
    have keyed : HasKey key.toList (withoutBreak line) := ⟨nonempty,word,rest,split⟩
    refine ⟨by simp [keyed.not_silent],?_⟩
    rw [split,field?_of_key rest nonempty word,Text.trim_eq_iff.mpr told]
    simp

theorem headerOf_concat (lines : List (List Char)) (line : List Char) :
    headerOf (lines ++ [line]) =
      match headerField? line with
      | none => headerOf lines
      | some field => (headerOf lines).add field := by
  rw [headerOf,List.filterMap_append,List.foldl_append,← headerOf]
  cases found : headerField? line with
  | none => simp [found]
  | some field => simp [found]

/-- What the fields of one key settle is settled by the last of its lines. -/
theorem headerOf_iff_last {key value : String} (holds : Header → Prop) (start : ¬ holds {})
    (own : ∀ (header : Header) given, holds (header.add (key,given)) ↔ given = value)
    (others : ∀ (header : Header) field, field.1 ≠ key → (holds (header.add field) ↔ holds header))
    (lines : List (List Char)) : holds (headerOf lines) ↔ Last (IsField key) lines value := by
  induction lines using List.reverseRecOn with
  | nil => exact iff_of_false start (not_last_nil value)
  | append_singleton lines line ih =>
    simp only [headerOf_concat,last_append_iff,last_singleton_iff,List.forall_mem_singleton,
      ← isField_iff]
    cases found : headerField? line with
    | none => simpa using ih
    | some field =>
      obtain ⟨name,given⟩ := field
      by_cases same : name = key
      · subst same
        simp [own,eq_comm]
      · simpa [same] using (others _ _ same).trans ih

theorem title_headerOf_iff (lines : List (List Char)) (value : String) :
    (headerOf lines).title = some value ↔ Last (IsField "title") lines value := by
  refine headerOf_iff_last (fun header => header.title = some value) nofun ?_ ?_ lines
  · intro header given
    simp [Header.add]
  · intro header field other
    rw [Header.add,if_neg other]
    split <;> rfl

theorem highlighted_headerOf_iff (lines : List (List Char)) :
    (headerOf lines).highlighted = true ↔ Last (IsField "highlighted") lines "true" := by
  refine headerOf_iff_last (fun header => header.highlighted = true) nofun ?_ ?_ lines
  · intro header given
    simp [Header.add]
  · intro header field other
    rw [Header.add,if_neg other]
    split <;> rfl

theorem get?_fields_add (header : Header) (field : String × String) (key : String)
    (apart : field.1 ≠ key ∨ key = "title" ∨ key = "highlighted") :
    (header.add field).fields.get? key = header.fields.get? key := by
  unfold Header.add
  split
  · rfl
  · split
    · rfl
    · next noTitle noHighlighting =>
      refine NameMap.get?_insert_of_ne _ _ _ _ ?_
      rintro rfl
      rcases apart with other | title | highlighted
      · exact other rfl
      · exact noTitle title
      · exact noHighlighting highlighted

theorem get?_headerOf_iff (lines : List (List Char)) (key value : String) :
    (headerOf lines).fields.get? key = some value ↔
      key ≠ "title" ∧ key ≠ "highlighted" ∧ Last (IsField key) lines value := by
  by_cases special : key = "title" ∨ key = "highlighted"
  · have absent : (headerOf lines).fields.get? key = none := by
      induction lines using List.reverseRecOn with
      | nil => rfl
      | append_singleton lines line ih =>
        rw [headerOf_concat]
        split
        · exact ih
        · exact (get?_fields_add _ _ key (.inr special)).trans ih
    rcases special with rfl | rfl
    · simp [absent]
    · simp [absent]
  · obtain ⟨noTitle,noHighlighting⟩ := not_or.mp special
    rw [and_iff_right noTitle,and_iff_right noHighlighting]
    refine headerOf_iff_last (fun header => header.fields.get? key = some value) nofun ?_ ?_ lines
    · intro header given
      rw [Header.add,if_neg noTitle,if_neg noHighlighting,NameMap.get?_insert,Option.some.injEq]
    · intro header field other
      rw [get?_fields_add header field key (.inl other)]

theorem headerOf_congr {lines others : List (List Char)}
    (same : ∀ key value, Last (IsField key) lines value ↔ Last (IsField key) others value) :
    headerOf lines = headerOf others := by
  have title : (headerOf lines).title = (headerOf others).title := by
    apply Option.ext
    intro value
    rw [title_headerOf_iff,title_headerOf_iff,same]
  have highlighted : (headerOf lines).highlighted = (headerOf others).highlighted := by
    rw [Bool.eq_iff_iff,highlighted_headerOf_iff,highlighted_headerOf_iff,same]
  have fields : (headerOf lines).fields = (headerOf others).fields := by
    apply NameMap.ext_get?
    intro key
    apply Option.ext
    intro value
    rw [get?_headerOf_iff,get?_headerOf_iff,same]
  exact (Header.mk.injEq ..).mpr ⟨title,highlighted,fields⟩

/-! ### Rearranged headers -/

/-- A whole line that may stand in a header. -/
structure Proper (line : List Char) : Prop where
  ended : Text.Ended line
  opened : ¬ Separates line
  header : IsHeaderLine (withoutBreak line)

theorem Layout.Fits.proper {layout : Layout} {source : List Char} (fits : layout.Fits source) :
    ∀ line ∈ layout.header, Proper line := by
  intro line member
  have ended := ((Text.areLines_append_iff _ _ _).mp fits.lines).1 line member
  exact ⟨ended,fits.headerOpen line member,fits.header line member⟩

/-- Another header of the same meaning makes up a fixture too. -/
theorem Layout.Fits.replace {layout : Layout} {source : List Char} (fits : layout.Fits source)
    {header : List (List Char)} (proper : ∀ line ∈ header, Proper line)
    (same : headerOf header = headerOf layout.header) :
    ({ layout with header } : Layout).Fits (layout.textWith header).toList where
  lines := by
    refine (Text.areLines_append_iff _ _ _).mpr ⟨fun line member => (proper line member).ended,?_⟩
    exact ((Text.areLines_append_iff _ _ _).mp fits.lines).2
  whole := by rw [textWith,String.toList_ofList]
  first := fits.first
  second := fits.second
  headerOpen line member := (proper line member).opened
  grammarOpen := fits.grammarOpen
  header line member := (proper line member).header
  titled := by
    rw [← isSome_title_headerOf_iff,same,isSome_title_headerOf_iff]
    exact fits.titled

theorem SaysNothing.isSilent {line : List Char} (nothing : SaysNothing line) :
    isSilent (withoutBreak line) = true := by
  obtain ⟨⟨rest,split,dropped⟩,_⟩ := Text.trimEnd_eq_iff.mp (rfl : withoutBreak line = _)
  rw [isSilent_iff]
  rcases nothing.silent with blank | ⟨text,comment⟩
  · left
    intro c member
    exact blank c (split ▸ List.mem_append_left rest member)
  · right
    rcases List.cons_eq_append_iff.mp (comment.symm.trans split) with ⟨_,broken⟩ | ⟨body,same,_⟩
    · -- The `#` would be one of the line breaks that were dropped.
      exact absurd (dropped '#' (broken ▸ List.mem_cons_self)) (by decide)
    · exact ⟨body,same⟩

theorem SaysNothing.proper {line : List Char} (nothing : SaysNothing line) : Proper line := by
  refine ⟨nothing.ended,?_,(isHeaderLine_iff _).mpr (.inl nothing.isSilent)⟩
  rintro ⟨rest,rfl⟩
  rcases nothing.silent with blank | ⟨text,comment⟩
  · exact absurd (blank '-' (by simp)) (by decide)
  · exact absurd (List.cons.inj comment).1 (by decide)

/-- A change of the header leaves its lines proper and their meaning as it was. -/
theorem Rearranged.preserves {lines others : List (List Char)} (change : Rearranged lines others)
    (proper : ∀ line ∈ lines, Proper line) :
    (∀ line ∈ others, Proper line) ∧ headerOf others = headerOf lines := by
  cases change with
  | swap before a b after apart =>
    refine ⟨fun line member => proper line ?_,headerOf_congr fun key value => ?_⟩
    · simp only [List.mem_append,List.mem_cons] at member ⊢
      tauto
    · exact (last_swap_iff before a b after (apart key) value).symm
  | insert before line after nothing =>
    refine ⟨fun other member => ?_,headerOf_congr fun key value => ?_⟩
    · rcases List.mem_append.mp member with early | late
      · exact proper other (List.mem_append_left _ early)
      · rcases List.mem_cons.mp late with rfl | late
        · exact nothing.proper
        · exact proper other (List.mem_append_right _ late)
    · refine last_insert_iff before line after (fun given field => ?_) value
      have silent : headerField? line = none := if_pos nothing.isSilent
      rw [← isField_iff,silent] at field
      exact nomatch field

theorem preserves_all {lines others : List (List Char)}
    (changes : Relation.ReflTransGen Rearranged lines others) (proper : ∀ line ∈ lines, Proper line) :
    (∀ line ∈ others, Proper line) ∧ headerOf others = headerOf lines := by
  induction changes with
  | refl => exact ⟨proper,rfl⟩
  | tail _ change ih =>
    obtain ⟨changed,same⟩ := change.preserves ih.1
    exact ⟨changed,same.trans ih.2⟩

/-- A fixture has the title, the highlighting and the fields that the lines of its header give last.
Changes of the header that cross no two lines of one key and add no field make no difference. -/
theorem parse_tells_header (source : String) (fixture : Fixture)
    (read : parse source = .ok fixture) :
    (∃ layout : Layout, layout.Fits source.toList) ∧
    ∀ layout : Layout, layout.Fits source.toList → Tells layout.header fixture ∧
      ∀ header, Relation.ReflTransGen Rearranged layout.header header →
        parse (layout.textWith header) = .ok fixture := by
  refine ⟨exists_layout_of_parse source fixture read,fun layout fits => ?_⟩
  have meaning := (fits.parse_eq_ok_iff fixture).mp read
  refine ⟨?_,fun header changes => ?_⟩
  · obtain ⟨title,titled,rfl⟩ := meaning
    exact ⟨(title_headerOf_iff _ _).mp titled,highlighted_headerOf_iff _,get?_headerOf_iff _⟩
  · obtain ⟨proper,same⟩ := preserves_all changes fits.proper
    rw [(fits.replace proper same).parse_eq_ok_iff,same]
    exact meaning

/-- Two titles, a value with a colon, blanks and carriage returns. -/
def retoldSource : String :=
  "title: A\r\nkind:\t a:b \r\nhighlighted: true\ntitle:B\n---\nx\n---\ny"

def retoldLayout : Layout where
  header := ["title: A\r\n".toList,"kind:\t a:b \r\n".toList,"highlighted: true\n".toList,
    "title:B\n".toList]
  first := "---\n".toList
  grammar := ["x\n".toList]
  second := "---\n".toList
  input := ["y".toList]

def retoldFixture : Fixture := ⟨"B",true,"x\n","y",NameMap.empty.insert "kind" "a:b"⟩

/-- The header with two of its lines swapped and a comment at its end. -/
def retoldHeader : List (List Char) :=
  ["title: A\r\n".toList,"highlighted: true\n".toList,"kind:\t a:b \r\n".toList,
    "title:B\n".toList,"# end\n".toList]

theorem retold_tells_header : parse retoldSource = .ok retoldFixture ∧
    retoldLayout.Fits retoldSource.toList ∧ Tells retoldLayout.header retoldFixture ∧
    parse (retoldLayout.textWith retoldHeader) = .ok retoldFixture := by
  have read : parse retoldSource = .ok retoldFixture := rfl
  have lines : Text.terminatedLines retoldSource.toList = retoldLayout.lines := by decide
  obtain ⟨areLines,whole⟩ := (Text.terminatedLines_eq_iff _ _).mp lines
  have fits : retoldLayout.Fits retoldSource.toList := by
    have keyed : HasKey "title".toList (withoutBreak "title:B\n".toList) :=
      ⟨by decide,List.all_eq_true.mp (by decide),"B".toList,by decide⟩
    exact ⟨areLines,whole,by decide,by decide,by decide,by decide,by decide,_,by decide,keyed⟩
  have swapped : Rearranged retoldLayout.header
      ["title: A\r\n".toList,"highlighted: true\n".toList,"kind:\t a:b \r\n".toList,
        "title:B\n".toList] := by
    refine .swap ["title: A\r\n".toList] _ _ ["title:B\n".toList] fun key given other kind own => ?_
    have kind : ("kind","a:b") = (key,given) := Option.some.inj ((isField_iff _ _ _).mpr kind)
    have own : ("highlighted","true") = (key,other) := Option.some.inj ((isField_iff _ _ _).mpr own)
    exact absurd ((Prod.mk.inj kind).1.trans (Prod.mk.inj own).1.symm) (by decide)
  have added : Rearranged _ retoldHeader :=
    .insert ["title: A\r\n".toList,"highlighted: true\n".toList,"kind:\t a:b \r\n".toList,
      "title:B\n".toList] "# end\n".toList [] ⟨⟨"# end".toList,by decide,by decide⟩,.inr ⟨_,rfl⟩⟩
  obtain ⟨tells,preserved⟩ := (parse_tells_header _ _ read).2 retoldLayout fits
  exact ⟨read,fits,tells,preserved _ (.tail (.single swapped) added)⟩

end ParseScope.Fixture
