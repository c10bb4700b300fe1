import Mathlib.Data.List.TakeWhile
import ParseScope.Fixture.Basic
import ParseScope.Proofs.Except
import ParseScope.Proofs.Text.Lines

/-!
The layout of fixtures: which texts are fixtures, and where their grammar and input stand. A text is
a fixture exactly when its lines are a header, a separator, a grammar, a separator and an input.
-/
namespace ParseScope.Fixture

/-- A line that begins with three hyphens. -/
def Separates (line : List Char) : Prop := ['-','-','-'] <+: line

instance (line : List Char) : Decidable (Separates line) :=
  inferInstanceAs (Decidable (['-','-','-'] <+: line))

/-- The line is `key`, a colon and any value. -/
structure HasKey (key line : List Char) : Prop where
  nonempty : key ≠ []
  word : ∀ c ∈ key, isKeyChar c = true
  colon : ∃ value, line = key ++ ':' :: value

/-- What a line of a header is, its line break apart. -/
inductive IsHeaderLine : List Char → Prop
  | blank (line : List Char) (blank : ∀ c ∈ line, Text.isWhiteSpace c = true) : IsHeaderLine line
  | comment (text : List Char) : IsHeaderLine ('#' :: text)
  | field (key line : List Char) (keyed : HasKey key line) : IsHeaderLine line

/-- The parts of a fixture's text, as lines with their terminators. -/
structure Layout where
  header : List (List Char)
  first : List Char
  grammar : List (List Char)
  second : List Char
  input : List (List Char)

def Layout.lines (layout : Layout) : List (List Char) :=
  layout.header ++ layout.first :: (layout.grammar ++ layout.second :: layout.input)

/-- The parts make up the text, and each is as it must be. -/
structure Layout.Fits (layout : Layout) (source : List Char) : Prop where
  lines : Text.AreLines layout.lines
  whole : layout.lines.flatten = source
  first : Separates layout.first
  second : Separates layout.second
  headerOpen : ∀ line ∈ layout.header, ¬ Separates line
  grammarOpen : ∀ line ∈ layout.grammar, ¬ Separates line
  header : ∀ line ∈ layout.header, IsHeaderLine (withoutBreak line)
  titled : ∃ line ∈ layout.header, HasKey "title".toList (withoutBreak line)

/-! ### Separators -/

theorem isSeparator_iff (line : List Char) : isSeparator line = true ↔ Separates line :=
  List.isPrefixOf_iff_prefix

theorem splitAtSeparator_eq_iff (lines before after : List (List Char)) :
    splitAtSeparator lines = (before,some after) ↔ ∃ separator,
      lines = before ++ separator :: after ∧ Separates separator ∧
        ∀ line ∈ before, ¬ Separates line := by
  simp only [← isSeparator_iff]
  constructor
  · intro split
    obtain ⟨rfl,rest⟩ := Prod.mk.inj split
    cases dropped : lines.dropWhile (!isSeparator ·) with
    | nil => simp [dropped] at rest
    | cons separator others =>
      simp only [dropped,Option.some.injEq] at rest
      subst rest
      refine ⟨separator,?_,?_,fun line member => ?_⟩
      · rw [← dropped,List.takeWhile_append_dropWhile]
      · have stopped := List.head?_dropWhile_not (!isSeparator ·) lines
        simpa [dropped] using stopped
      · simpa using List.mem_takeWhile_imp member
  · rintro ⟨separator,rfl,separates,opened⟩
    have passed : ∀ line ∈ before, (!isSeparator line) = true := by simpa using opened
    simp [splitAtSeparator,List.takeWhile_append_of_pos passed,List.dropWhile_append_of_pos passed,
      separates]

/-! ### Fields -/

theorem field?_of_key {key : List Char} (rest : List Char) (nonempty : key ≠ [])
    (word : ∀ c ∈ key, isKeyChar c = true) : field? (key ++ ':' :: rest) =
      some (String.ofList key,
        String.ofList (Text.trimEnd Text.isBlank (rest.dropWhile Text.isBlank))) := by
  have colon : isKeyChar ':' = false := rfl
  have taken : (key ++ ':' :: rest).takeWhile isKeyChar = key := by
    simp [List.takeWhile_append_of_pos word,colon]
  have dropped : (key ++ ':' :: rest).dropWhile isKeyChar = ':' :: rest := by
    simp [List.dropWhile_append_of_pos word,colon]
  simp [field?,taken,dropped,nonempty]

/-- The key of a field is what stands before the first colon. -/
theorem field?_key_iff (key line : List Char) :
    (∃ value, field? line = some (String.ofList key,value)) ↔ HasKey key line := by
  constructor
  · rintro ⟨value,found⟩
    unfold field? at found
    simp only at found
    split at found
    next rest colon =>
      rw [Option.ite_none_left_eq_some] at found
      obtain ⟨nonempty,found⟩ := found
      obtain ⟨same,_⟩ := Prod.mk.inj (Option.some.inj found)
      obtain rfl := String.ofList_injective same
      refine ⟨by simpa using nonempty,fun c member => List.mem_takeWhile_imp member,rest,?_⟩
      rw [← colon,List.takeWhile_append_dropWhile]
    next => exact nomatch found
  · rintro ⟨nonempty,word,rest,rfl⟩
    exact ⟨_,field?_of_key rest nonempty word⟩

theorem isSilent_iff (line : List Char) : isSilent line = true ↔
    (∀ c ∈ line, Text.isWhiteSpace c = true) ∨ ∃ text, line = '#' :: text := by
  cases line with
  | nil => simp [isSilent]
  | cons c rest => simp [isSilent]

theorem range_of_isKeyChar (c : Char) (word : isKeyChar c = true) :
    48 ≤ c.toNat ∧ c.toNat ≤ 122 := by
  have alphabetic : c.isAlpha = (decide (65 ≤ c.val ∧ c.val ≤ 90) ||
      decide (97 ≤ c.val) && decide (c.val ≤ 122)) := rfl
  simp only [isKeyChar,Char.isAlphanum,alphabetic,Char.isDigit,Bool.or_eq_true,Bool.and_eq_true,
    decide_eq_true_eq,ge_iff_le,UInt32.le_iff_toNat_le] at word
  change (((65 ≤ c.toNat ∧ c.toNat ≤ 90) ∨ (97 ≤ c.toNat ∧ c.toNat ≤ 122)) ∨
    (48 ≤ c.toNat ∧ c.toNat ≤ 57)) ∨ c = '_' at word
  rcases word with ((upper | lower) | digit) | rfl
  · omega
  · omega
  · omega
  · decide

/-- A line that has a key is neither blank nor a comment. -/
theorem HasKey.not_silent {key line : List Char} (keyed : HasKey key line) :
    isSilent line = false := by
  obtain ⟨nonempty,word,value,rfl⟩ := keyed
  obtain ⟨c,rest,rfl⟩ := List.exists_cons_of_ne_nil nonempty
  obtain ⟨low,high⟩ := range_of_isKeyChar c (word c List.mem_cons_self)
  have visible : Text.isWhiteSpace c = false := by
    simp [Text.isWhiteSpace,Text.inRanges]
    omega
  have noComment : c ≠ '#' := by
    rintro rfl
    exact absurd low (by decide)
  simp [isSilent,visible,noComment]

theorem isHeaderLine_iff (line : List Char) :
    IsHeaderLine line ↔ isSilent line = true ∨ (field? line).isSome = true := by
  constructor
  · rintro (⟨_,blank⟩ | ⟨text⟩ | ⟨key,_,keyed⟩)
    · exact .inl ((isSilent_iff line).mpr (.inl blank))
    · exact .inl ((isSilent_iff _).mpr (.inr ⟨text,rfl⟩))
    · obtain ⟨value,found⟩ := (field?_key_iff key line).mpr keyed
      exact .inr (Option.isSome_iff_exists.mpr ⟨_,found⟩)
  · rintro (silent | field)
    · rcases (isSilent_iff line).mp silent with blank | ⟨text,rfl⟩
      · exact .blank line blank
      · exact .comment text
    · obtain ⟨⟨key,value⟩,found⟩ := Option.isSome_iff_exists.mp field
      exact .field key.toList line
        ((field?_key_iff key.toList line).mp ⟨value,by simpa using found⟩)

instance (line : List Char) : Decidable (IsHeaderLine line) :=
  decidable_of_iff _ (isHeaderLine_iff line).symm

/-- The field of a header line, if it has one. -/
def headerField? (line : List Char) : Option (String × String) :=
  if isSilent (withoutBreak line) then none else field? (withoutBreak line)

theorem headerFields_eq_ok_iff (number : Nat) (lines : List (List Char))
    (fields : List (String × String)) :
    headerFields number lines = .ok fields ↔
      (∀ line ∈ lines, IsHeaderLine (withoutBreak line)) ∧
        lines.filterMap headerField? = fields := by
  induction lines generalizing number fields with
  | nil => simp [headerFields]
  | cons line rest ih =>
    rw [headerFields,List.forall_mem_cons,isHeaderLine_iff]
    by_cases silent : isSilent (withoutBreak line) = true
    · simp [silent,ih,headerField?]
    · cases found : field? (withoutBreak line) with
      | none => simp [silent]
      | some field =>
        have head : headerField? line = some field := by simp [headerField?,silent,found]
        simp [silent,map_eq_ok_iff,ih,head,and_assoc]

/-- A header has a title when one of its fields is called so. -/
theorem isSome_title_foldl (fields : List (String × String)) (header : Header) :
    (fields.foldl Header.add header).title.isSome = true ↔
      header.title.isSome = true ∨ ∃ field ∈ fields, field.1 = "title" := by
  induction fields generalizing header with
  | nil => simp
  | cons field fields ih =>
    rw [List.foldl_cons,ih,Header.add]
    by_cases title : field.1 = "title"
    · simp [title]
    · by_cases highlighted : field.1 = "highlighted"
      · simp [highlighted]
      · simp [title,highlighted]

/-- Some line has the key of a title when one of the fields is called so. -/
theorem exists_title_iff (lines : List (List Char)) :
    (∃ field ∈ lines.filterMap headerField?, field.1 = "title") ↔
      ∃ line ∈ lines, HasKey "title".toList (withoutBreak line) := by
  constructor
  · rintro ⟨⟨_,value⟩,member,rfl⟩
    obtain ⟨line,inLines,found⟩ := List.mem_filterMap.mp member
    obtain ⟨_,found⟩ := Option.ite_none_left_eq_some.mp found
    exact ⟨line,inLines,(field?_key_iff "title".toList _).mp ⟨value,by simpa using found⟩⟩
  · rintro ⟨line,inLines,keyed⟩
    obtain ⟨value,found⟩ := (field?_key_iff "title".toList _).mpr keyed
    have field : headerField? line = some ("title",value) := by
      simpa [headerField?,keyed.not_silent] using found
    exact ⟨_,List.mem_filterMap.mpr ⟨line,inLines,field⟩,rfl⟩

/-! ### Fixtures -/

/-- The header that the fields of some lines make up. -/
def headerOf (lines : List (List Char)) : Header :=
  (lines.filterMap headerField?).foldl Header.add {}

theorem isSome_title_headerOf_iff (lines : List (List Char)) :
    (headerOf lines).title.isSome = true ↔
      ∃ line ∈ lines, HasKey "title".toList (withoutBreak line) := by
  rw [headerOf,isSome_title_foldl,exists_title_iff]
  simp

/-- The parts of a text that is read as a fixture, and what becomes of them. -/
theorem parse_eq_ok_iff (source : String) (fixture : Fixture) :
    parse source = .ok fixture ↔ ∃ header afterHeader grammar input title,
      splitAtSeparator (Text.terminatedLines source.toList) = (header,some afterHeader) ∧
      (∀ line ∈ header, IsHeaderLine (withoutBreak line)) ∧
      splitAtSeparator afterHeader = (grammar,some input) ∧
      (headerOf header).title = some title ∧
      fixture = ⟨title,(headerOf header).highlighted,String.ofList grammar.flatten,
        String.ofList input.flatten,(headerOf header).fields⟩ := by
  simp only [parse,bind_eq_ok_iff,headerFields_eq_ok_iff]
  constructor
  · rintro ⟨_,⟨valid,rfl⟩,read⟩
    split at read
    next afterHeader first =>
      split at read
      next input second =>
        split at read
        next title titled =>
          exact ⟨_,afterHeader,_,input,title,Prod.ext rfl first,valid,Prod.ext rfl second,titled,
            ((pure_eq_ok_iff _ _).mp read).symm⟩
        next => exact absurd read (throw_ne_ok _ _)
      next => exact absurd read (throw_ne_ok _ _)
    next => exact absurd read (throw_ne_ok _ _)
  · rintro ⟨header,afterHeader,grammar,input,title,first,valid,second,titled,rfl⟩
    refine ⟨_,⟨first ▸ valid,rfl⟩,?_⟩
    rw [headerOf] at titled
    simp [first,second,titled,headerOf]

/-- What becomes of a text that fits a layout. -/
theorem Layout.Fits.parse_eq_ok_iff {layout : Layout} {source : String}
    (fits : layout.Fits source.toList) (fixture : Fixture) :
    parse source = .ok fixture ↔ ∃ title, (headerOf layout.header).title = some title ∧
      fixture = ⟨title,(headerOf layout.header).highlighted,String.ofList layout.grammar.flatten,
        String.ofList layout.input.flatten,(headerOf layout.header).fields⟩ := by
  have lines := (Text.terminatedLines_eq_iff _ _).mpr ⟨fits.lines,fits.whole⟩
  have first : splitAtSeparator layout.lines = _ := (splitAtSeparator_eq_iff _ _ _).mpr
    ⟨layout.first,rfl,fits.first,fits.headerOpen⟩
  have second := (splitAtSeparator_eq_iff _ _ layout.input).mpr
    ⟨layout.second,rfl,fits.second,fits.grammarOpen⟩
  rw [Fixture.parse_eq_ok_iff,lines,first]
  constructor
  · rintro ⟨_,_,grammar,input,title,split,_,rest,titled,rfl⟩
    obtain ⟨rfl,behind⟩ := Prod.mk.inj split
    obtain rfl := Option.some.inj behind
    obtain ⟨rfl,last⟩ := Prod.mk.inj (second.symm.trans rest)
    obtain rfl := Option.some.inj last
    exact ⟨title,titled,rfl⟩
  · rintro ⟨title,titled,rfl⟩
    exact ⟨layout.header,_,layout.grammar,layout.input,title,rfl,fits.header,second,titled,rfl⟩

/-- A text that fits a layout is a fixture with the grammar and the input of the layout. -/
theorem Layout.Fits.exists_parse {layout : Layout} {source : String}
    (fits : layout.Fits source.toList) :
    ∃ fixture, parse source = .ok fixture ∧ fixture.grammar.toList = layout.grammar.flatten ∧
      fixture.input.toList = layout.input.flatten := by
  have titled := (isSome_title_headerOf_iff layout.header).mpr fits.titled
  obtain ⟨title,titled⟩ := Option.isSome_iff_exists.mp titled
  refine ⟨_,(fits.parse_eq_ok_iff _).mpr ⟨title,titled,rfl⟩,?_,?_⟩
  · rw [String.toList_ofList]
  · rw [String.toList_ofList]

/-- Only texts that fit a layout are fixtures. -/
theorem exists_layout_of_parse (source : String) (fixture : Fixture)
    (read : parse source = .ok fixture) : ∃ layout : Layout, layout.Fits source.toList := by
  obtain ⟨header,afterHeader,grammar,input,title,first,valid,second,titled,_⟩ :=
    (parse_eq_ok_iff source fixture).mp read
  obtain ⟨opening,whole,opens,headerOpen⟩ := (splitAtSeparator_eq_iff _ _ _).mp first
  obtain ⟨middle,rfl,divides,grammarOpen⟩ := (splitAtSeparator_eq_iff _ _ _).mp second
  obtain ⟨areLines,whole⟩ := (Text.terminatedLines_eq_iff _ _).mp whole
  have named := (isSome_title_headerOf_iff header).mp (Option.isSome_iff_exists.mpr ⟨title,titled⟩)
  exact ⟨⟨header,opening,grammar,middle,input⟩,areLines,whole,opens,divides,headerOpen,grammarOpen,
    valid,named⟩

/-- A text is a fixture exactly when its lines can be split into a header with a title, a separator,
a grammar, a separator and an input. The grammar and the input are then these lines as they are,
line breaks included. -/
theorem parse_iff_layout (source : String) :
    ((∃ fixture, parse source = .ok fixture) ↔ ∃ layout : Layout, layout.Fits source.toList) ∧
    ∀ (fixture : Fixture) (layout : Layout), parse source = .ok fixture →
      layout.Fits source.toList →
      fixture.grammar.toList = layout.grammar.flatten ∧
      fixture.input.toList = layout.input.flatten ∧
      layout.header.flatten ++ layout.first ++ fixture.grammar.toList ++ layout.second ++
        fixture.input.toList = source.toList := by
  refine ⟨⟨?_,?_⟩,?_⟩
  · rintro ⟨fixture,read⟩
    exact exists_layout_of_parse source fixture read
  · rintro ⟨layout,fits⟩
    obtain ⟨fixture,read,_⟩ := fits.exists_parse
    exact ⟨fixture,read⟩
  · intro fixture layout read fits
    obtain ⟨same,reread,grammar,input⟩ := fits.exists_parse
    obtain rfl := Except.ok.inj (read.symm.trans reread)
    refine ⟨grammar,input,?_⟩
    rw [grammar,input,← fits.whole,Layout.lines]
    simp

/-- A comment, carriage returns, and hyphens in the input. -/
def exampleSource : String := "# é\r\ntitle: T\r\n---\r\nx = 'é'\n--- x\nab\n---\ncd"

def exampleLayout : Layout where
  header := ["# é\r\n".toList,"title: T\r\n".toList]
  first := "---\r\n".toList
  grammar := ["x = 'é'\n".toList]
  second := "--- x\n".toList
  input := ["ab\n".toList,"---\n".toList,"cd".toList]

theorem exampleSource_parts : ∃ fixture, parse exampleSource = .ok fixture ∧
    exampleLayout.Fits exampleSource.toList ∧ fixture.grammar.toList = "x = 'é'\n".toList ∧
    fixture.input.toList = "ab\n---\ncd".toList := by
  have lines : Text.terminatedLines exampleSource.toList = exampleLayout.lines := by decide
  obtain ⟨areLines,whole⟩ := (Text.terminatedLines_eq_iff _ _).mp lines
  have fits : exampleLayout.Fits exampleSource.toList := by
    have keyed : HasKey "title".toList (withoutBreak "title: T\r\n".toList) :=
      ⟨by decide,List.all_eq_true.mp (by decide)," T".toList,by decide⟩
    exact ⟨areLines,whole,by decide,by decide,by decide,by decide,by decide,_,by decide,keyed⟩
  obtain ⟨accepts,parts⟩ := parse_iff_layout exampleSource
  obtain ⟨fixture,read⟩ := accepts.mpr ⟨exampleLayout,fits⟩
  obtain ⟨grammar,input,_⟩ := parts fixture exampleLayout read fits
  exact ⟨fixture,read,fits,grammar,input⟩

end ParseScope.Fixture
