import ParseScope.Proofs.Fixture.Layout

/-!
Texts that are no fixtures, and why. A line that may not stand in the header is named before all
else, then a separator that is missing, and a missing title last. What stands behind a separator has
no part in what is found wrong before it.
-/
namespace ParseScope.Fixture

def linesOf (source : String) : List (List Char) := Text.terminatedLines source.toList

/-- How many of the lines separate parts. -/
def separators (lines : List (List Char)) : Nat := lines.countP (Separates ·)

/-- `line` stands in the header behind the lines `before`: none of them separates parts. -/
structure InHeader (lines before : List (List Char)) (line : List Char) : Prop where
  begins : before ++ [line] <+: lines
  opened : ∀ other ∈ before ++ [line], ¬ Separates other

/-- `line` is the first of the header that may not stand there. -/
structure FirstFault (lines before : List (List Char)) (line : List Char) : Prop where
  inHeader : InHeader lines before line
  sound : ∀ earlier ∈ before, IsHeaderLine (withoutBreak earlier)
  fault : ¬ IsHeaderLine (withoutBreak line)

/-- Why lines make up no fixture: the first of four reasons that applies. -/
inductive Refused (lines : List (List Char)) : FormatError → Prop
  | invalidField (before : List (List Char)) (line : List Char)
      (first : FirstFault lines before line) :
      Refused lines (.invalidField (before.length + 1) (String.ofList (withoutBreak line)))
  | noGrammar (sound : ∀ before line, ¬ FirstFault lines before line)
      (none : separators lines = 0) : Refused lines (.missingSeparator .grammar)
  | noInput (sound : ∀ before line, ¬ FirstFault lines before line)
      (one : separators lines = 1) : Refused lines (.missingSeparator .input)
  | untitled (sound : ∀ before line, ¬ FirstFault lines before line) (both : 2 ≤ separators lines)
      (untitled : ∀ before line, InHeader lines before line →
        ¬ HasKey "title".toList (withoutBreak line)) : Refused lines .missingTitle

/-! ### Separators -/

theorem separators_eq_zero_iff (lines : List (List Char)) :
    separators lines = 0 ↔ ∀ line ∈ lines, ¬ Separates line := by
  simp [separators,List.countP_eq_zero]

theorem splitAtSeparator_none_iff (lines : List (List Char)) :
    (splitAtSeparator lines).2 = none ↔ separators lines = 0 := by
  have none_iff : (splitAtSeparator lines).2 = none ↔ lines.dropWhile (!isSeparator ·) = [] := by
    rw [splitAtSeparator]
    split <;> simp [*]
  simp [none_iff,separators_eq_zero_iff,← isSeparator_iff]

theorem separators_of_split {lines after : List (List Char)}
    (split : (splitAtSeparator lines).2 = some after) :
    separators lines = separators after + 1 := by
  obtain ⟨separator,whole,separates,opened⟩ :=
    (splitAtSeparator_eq_iff lines _ after).mp (Prod.ext rfl split)
  have none := (separators_eq_zero_iff _).mpr opened
  rw [separators] at none
  rw [whole,separators,List.countP_append,none,Nat.zero_add,separators]
  exact List.countP_cons_of_pos (decide_eq_true separates)

theorem exists_split (lines : List (List Char)) (separated : separators lines ≠ 0) :
    ∃ after, (splitAtSeparator lines).2 = some after :=
  Option.ne_none_iff_exists'.mp (mt (splitAtSeparator_none_iff lines).mp separated)

/-! ### Headers -/

theorem inHeader_iff (lines before : List (List Char)) (line : List Char) :
    InHeader lines before line ↔ before ++ [line] <+: (splitAtSeparator lines).1 := by
  constructor
  · rintro ⟨⟨rest,rfl⟩,opened⟩
    have passed : ∀ other ∈ before ++ [line], (!isSeparator other) = true := by
      simpa [← isSeparator_iff] using opened
    exact ⟨_,(List.takeWhile_append_of_pos passed).symm⟩
  · intro begins
    refine ⟨begins.trans (List.takeWhile_prefix _),fun other member => ?_⟩
    have passed := List.mem_takeWhile_imp (begins.subset member)
    rw [← isSeparator_iff]
    simpa using passed

/-- Lines behind a separator are not in the header. -/
theorem inHeader_append (front rest before : List (List Char)) (line : List Char)
    (separated : 1 ≤ separators front) :
    InHeader (front ++ rest) before line ↔ InHeader front before line := by
  constructor
  · rintro ⟨begins,opened⟩
    refine ⟨?_,opened⟩
    rcases List.prefix_or_prefix_of_prefix begins (List.prefix_append front rest) with
      inside | beyond
    · exact inside
    · -- The lines up to this one would hold the separator.
      have none := (separators_eq_zero_iff front).mpr
        fun other member => opened other (beyond.subset member)
      omega
  · rintro ⟨begins,opened⟩
    exact ⟨begins.trans (List.prefix_append front rest),opened⟩

theorem firstFault_append (front rest before : List (List Char)) (line : List Char)
    (separated : 1 ≤ separators front) :
    FirstFault (front ++ rest) before line ↔ FirstFault front before line := by
  have same := inHeader_append front rest before line separated
  constructor
  · rintro ⟨inHeader,sound,fault⟩
    exact ⟨same.mp inHeader,sound,fault⟩
  · rintro ⟨inHeader,sound,fault⟩
    exact ⟨same.mpr inHeader,sound,fault⟩

theorem headerFields_of_sound (number : Nat) (line : List Char) (rest : List (List Char))
    (sound : IsHeaderLine (withoutBreak line)) (error : FormatError) :
    headerFields number (line :: rest) = .error error ↔
      headerFields (number + 1) rest = .error error := by
  rw [headerFields]
  by_cases silent : isSilent (withoutBreak line) = true
  · simp [silent]
  · have field := ((isHeaderLine_iff _).mp sound).resolve_left silent
    obtain ⟨field,found⟩ := Option.isSome_iff_exists.mp field
    simp [silent,found,map_eq_error_iff]

theorem headerFields_of_fault (number : Nat) (line : List Char) (rest : List (List Char))
    (fault : ¬ IsHeaderLine (withoutBreak line)) : headerFields number (line :: rest) =
      .error (.invalidField number (String.ofList (withoutBreak line))) := by
  rw [isHeaderLine_iff,not_or,Option.not_isSome_iff_eq_none] at fault
  simp [headerFields,fault]

/-- The lines are numbered from `number` on. The first that may not stand in a header is refused. -/
theorem headerFields_eq_error_iff (number : Nat) (lines : List (List Char)) (error : FormatError) :
    headerFields number lines = .error error ↔ ∃ before line, before ++ [line] <+: lines ∧
      (∀ earlier ∈ before, IsHeaderLine (withoutBreak earlier)) ∧
      ¬ IsHeaderLine (withoutBreak line) ∧
      error = .invalidField (number + before.length) (String.ofList (withoutBreak line)) := by
  induction lines generalizing number with
  | nil => simp [headerFields]
  | cons head rest ih =>
    -- A first line that is sound shifts the rest by one number; any other is the one refused.
    by_cases sound : IsHeaderLine (withoutBreak head)
    · rw [headerFields_of_sound number head rest sound,ih]
      constructor
      · rintro ⟨before,line,begins,earlier,fault,rfl⟩
        refine ⟨head :: before,line,?_,List.forall_mem_cons.mpr ⟨sound,earlier⟩,fault,?_⟩
        · exact List.cons_prefix_cons.mpr ⟨rfl,begins⟩
        · rw [List.length_cons,Nat.add_right_comm,Nat.add_assoc]
      · rintro ⟨before,line,begins,earlier,fault,rfl⟩
        cases before with
        | nil =>
          obtain ⟨rfl,_⟩ := List.cons_prefix_cons.mp begins
          exact absurd sound fault
        | cons _ before =>
          obtain ⟨rfl,behind⟩ := List.cons_prefix_cons.mp begins
          refine ⟨before,line,behind,(List.forall_mem_cons.mp earlier).2,fault,?_⟩
          rw [List.length_cons,Nat.add_right_comm,Nat.add_assoc]
    · rw [headerFields_of_fault number head rest sound,Except.error.injEq]
      constructor
      · rintro rfl
        refine ⟨[],head,List.cons_prefix_cons.mpr ⟨rfl,List.nil_prefix⟩,?_,sound,rfl⟩
        exact List.forall_mem_nil _
      · rintro ⟨before,line,begins,earlier,fault,rfl⟩
        cases before with
        | nil =>
          obtain ⟨rfl,_⟩ := List.cons_prefix_cons.mp begins
          rfl
        | cons _ before =>
          obtain ⟨rfl,_⟩ := List.cons_prefix_cons.mp begins
          exact absurd (earlier _ List.mem_cons_self) sound

theorem headerFields_eq_error_iff_firstFault (lines : List (List Char)) (error : FormatError) :
    headerFields 1 (splitAtSeparator lines).1 = .error error ↔ ∃ before line,
      FirstFault lines before line ∧
      error = .invalidField (before.length + 1) (String.ofList (withoutBreak line)) := by
  rw [headerFields_eq_error_iff]
  constructor
  · rintro ⟨before,line,begins,sound,fault,rfl⟩
    refine ⟨before,line,⟨(inHeader_iff lines before line).mpr begins,sound,fault⟩,?_⟩
    rw [Nat.add_comm]
  · rintro ⟨before,line,⟨inHeader,sound,fault⟩,rfl⟩
    refine ⟨before,line,(inHeader_iff lines before line).mp inHeader,sound,fault,?_⟩
    rw [Nat.add_comm]

/-- No line of the header is at fault when each may stand there. -/
theorem no_firstFault_iff (lines : List (List Char)) :
    (∀ before line, ¬ FirstFault lines before line) ↔
      ∀ line ∈ (splitAtSeparator lines).1, IsHeaderLine (withoutBreak line) := by
  have accepted := headerFields_eq_ok_iff 1 (splitAtSeparator lines).1
  have refused := headerFields_eq_error_iff_firstFault lines
  cases read : headerFields 1 (splitAtSeparator lines).1 with
  | ok fields =>
    simp only [read,reduceCtorEq,false_iff,not_exists,not_and] at refused
    refine iff_of_true (fun before line first => refused _ before line first rfl) ?_
    exact ((accepted fields).mp read).1
  | error error =>
    obtain ⟨before,line,first,_⟩ := (refused error).mp read
    refine iff_of_false (fun sound => sound before line first) fun valid => ?_
    have read' := (accepted _).mpr ⟨valid,rfl⟩
    simp [read] at read'

/-- A header without a title holds no line with the key of one. -/
theorem title_headerOf_eq_none_iff (lines : List (List Char)) :
    (headerOf (splitAtSeparator lines).1).title = none ↔ ∀ before line,
      InHeader lines before line → ¬ HasKey "title".toList (withoutBreak line) := by
  rw [← Option.not_isSome_iff_eq_none,isSome_title_headerOf_iff]
  constructor
  · intro untitled before line inHeader keyed
    have begins := (inHeader_iff lines before line).mp inHeader
    exact untitled ⟨line,begins.subset (by simp),keyed⟩
  · rintro untitled ⟨line,member,keyed⟩
    obtain ⟨before,after,split⟩ := List.append_of_mem member
    have inHeader := (inHeader_iff lines before line).mpr ⟨after,by rw [split]; simp⟩
    exact untitled before line inHeader keyed

/-! ### Texts -/

/-- The stages of reading a fixture, and what is missing at each. -/
theorem parse_eq_error_iff (source : String) (error : FormatError) :
    parse source = .error error ↔
      headerFields 1 (splitAtSeparator (linesOf source)).1 = .error error ∨
      (∀ line ∈ (splitAtSeparator (linesOf source)).1, IsHeaderLine (withoutBreak line)) ∧
        ((splitAtSeparator (linesOf source)).2 = none ∧ error = .missingSeparator .grammar ∨
          ∃ afterHeader, (splitAtSeparator (linesOf source)).2 = some afterHeader ∧
            ((splitAtSeparator afterHeader).2 = none ∧ error = .missingSeparator .input ∨
              (splitAtSeparator afterHeader).2 ≠ none ∧
                (headerOf (splitAtSeparator (linesOf source)).1).title = none ∧
                error = .missingTitle)) := by
  simp only [parse,bind_eq_error_iff,headerFields_eq_ok_iff,linesOf]
  refine or_congr_right ⟨?_,?_⟩
  · rintro ⟨_,⟨valid,rfl⟩,read⟩
    refine ⟨valid,?_⟩
    split at read
    next afterHeader first =>
      split at read
      next input second =>
        split at read
        next title titled => exact absurd read (pure_ne_error _ _)
        next untitled =>
          have untitled := Option.eq_none_iff_forall_ne_some.mpr untitled
          refine .inr ⟨afterHeader,first,.inr ⟨?_,untitled,?_⟩⟩
          · simp [second]
          · exact ((throw_eq_error_iff _ _).mp read).symm
      next none =>
        have none := Option.eq_none_iff_forall_ne_some.mpr none
        exact .inr ⟨afterHeader,first,.inl ⟨none,((throw_eq_error_iff _ _).mp read).symm⟩⟩
    next none =>
      have none := Option.eq_none_iff_forall_ne_some.mpr none
      exact .inl ⟨none,((throw_eq_error_iff _ _).mp read).symm⟩
  · rintro ⟨valid,missing⟩
    refine ⟨_,⟨valid,rfl⟩,?_⟩
    rcases missing with ⟨first,rfl⟩ | ⟨afterHeader,first,⟨second,rfl⟩ | ⟨second,untitled,rfl⟩⟩
    · simp [first]
    · simp [first,second]
    · obtain ⟨input,second⟩ := Option.ne_none_iff_exists'.mp second
      rw [headerOf] at untitled
      simp [first,second,untitled]

/-- The lines decide by themselves why a text is no fixture. -/
theorem parse_eq_error_iff_refused (source : String) (error : FormatError) :
    parse source = .error error ↔ Refused (linesOf source) error := by
  rw [parse_eq_error_iff,headerFields_eq_error_iff_firstFault,← no_firstFault_iff,
    splitAtSeparator_none_iff,title_headerOf_eq_none_iff]
  simp only [ne_eq,splitAtSeparator_none_iff]
  constructor
  · rintro (⟨before,line,first,rfl⟩ | ⟨sound,missing⟩)
    · exact .invalidField before line first
    · rcases missing with ⟨none,rfl⟩ | ⟨afterHeader,split,⟨none,rfl⟩ | ⟨some,untitled,rfl⟩⟩
      · exact .noGrammar sound none
      · exact .noInput sound (by rw [separators_of_split split,none])
      · refine .untitled sound ?_ untitled
        rw [separators_of_split split]
        omega
  · intro refused
    cases refused with
    | invalidField before line first => exact .inl ⟨before,line,first,rfl⟩
    | noGrammar sound none => exact .inr ⟨sound,.inl ⟨none,rfl⟩⟩
    | noInput sound one =>
      obtain ⟨afterHeader,split⟩ := exists_split (linesOf source) (by omega)
      have counts := separators_of_split split
      exact .inr ⟨sound,.inr ⟨afterHeader,split,.inl ⟨by omega,rfl⟩⟩⟩
    | untitled sound both untitled =>
      obtain ⟨afterHeader,split⟩ := exists_split (linesOf source) (by omega)
      have counts := separators_of_split split
      exact .inr ⟨sound,.inr ⟨afterHeader,split,.inr ⟨by omega,untitled,rfl⟩⟩⟩

/-- What stands behind a separator puts no line of the header at fault. -/
theorem refused_invalidField_append (front rest : List (List Char)) (number : Nat) (text : String)
    (separated : 1 ≤ separators front) :
    Refused (front ++ rest) (.invalidField number text) ↔
      Refused front (.invalidField number text) := by
  have same (before : List (List Char)) (line : List Char) :=
    firstFault_append front rest before line separated
  constructor
  · intro refused
    cases refused with
    | invalidField before line first =>
      exact .invalidField before line ((same before line).mp first)
  · intro refused
    cases refused with
    | invalidField before line first =>
      exact .invalidField before line ((same before line).mpr first)

/-- What stands behind two separators is never a reason. -/
theorem refused_append (front rest : List (List Char)) (error : FormatError)
    (separated : 2 ≤ separators front) :
    Refused (front ++ rest) error ↔ Refused front error := by
  have one : 1 ≤ separators front := Nat.le_of_succ_le separated
  have more : separators (front ++ rest) = separators front + separators rest :=
    List.countP_append
  have sound_iff : (∀ before line, ¬ FirstFault (front ++ rest) before line) ↔
      ∀ before line, ¬ FirstFault front before line := by
    simp only [firstFault_append front rest _ _ one]
  have inHeader_iff (before : List (List Char)) (line : List Char) :=
    inHeader_append front rest before line one
  cases error with
  | invalidField number text => exact refused_invalidField_append front rest number text one
  | missingSeparator part =>
    -- Both separators are there, on either side.
    constructor
    · intro refused
      cases refused with
      | noGrammar | noInput => omega
    · intro refused
      cases refused with
      | noGrammar | noInput => omega
  | missingTitle =>
    constructor
    · intro refused
      cases refused with
      | untitled sound _ untitled =>
        exact .untitled (sound_iff.mp sound) separated fun before line inHeader =>
          untitled before line ((inHeader_iff before line).mpr inHeader)
    · intro refused
      cases refused with
      | untitled sound _ untitled =>
        refine .untitled (sound_iff.mpr sound) (by omega) fun before line inHeader => ?_
        exact untitled before line ((inHeader_iff before line).mp inHeader)

theorem linesOf_append (front behind : String) :
    linesOf (front ++ "\n" ++ behind) = linesOf (front ++ "\n") ++ linesOf behind := by
  simpa [linesOf] using Text.terminatedLines_append front.toList behind.toList

/-- A text is refused for the first of four reasons that its lines give. What stands behind the line
of the first separator is never the reason for a refused line, and what stands behind the line of
the second is never a reason at all. -/
theorem parse_eq_error_iff_first (front behind : String) :
    (∀ source error, parse source = .error error ↔ Refused (linesOf source) error) ∧
    (1 ≤ separators (linesOf (front ++ "\n")) → ∀ number text,
      parse (front ++ "\n" ++ behind) = .error (.invalidField number text) ↔
        parse (front ++ "\n") = .error (.invalidField number text)) ∧
    (2 ≤ separators (linesOf (front ++ "\n")) → ∀ error,
      parse (front ++ "\n" ++ behind) = .error error ↔
        parse (front ++ "\n") = .error error) := by
  refine ⟨parse_eq_error_iff_refused,fun one number text => ?_,fun two error => ?_⟩
  · rw [parse_eq_error_iff_refused,parse_eq_error_iff_refused,linesOf_append]
    exact refused_invalidField_append _ _ number text one
  · rw [parse_eq_error_iff_refused,parse_eq_error_iff_refused,linesOf_append]
    exact refused_append _ _ error two

/-- A line of the header that is none, behind a blank line and a comment, and no title. -/
def refusedSource : String := "\r\n# title: T\r\ntitle T\r\n---\r\nx = 'x'\n---"

theorem refusedSource_refused :
    separators (linesOf (refusedSource ++ "\n")) = 2 ∧
    FirstFault (linesOf (refusedSource ++ "\n")) ["\r\n".toList,"# title: T\r\n".toList]
      "title T\r\n".toList ∧
    parse (refusedSource ++ "\n") = .error (.invalidField 3 "title T") ∧
    parse (refusedSource ++ "\n" ++ "title: T\n---") = .error (.invalidField 3 "title T") := by
  obtain ⟨refused_iff,_,behind⟩ := parse_eq_error_iff_first refusedSource "title: T\n---"
  have two : separators (linesOf (refusedSource ++ "\n")) = 2 := by decide
  have first : FirstFault (linesOf (refusedSource ++ "\n"))
      ["\r\n".toList,"# title: T\r\n".toList] "title T\r\n".toList :=
    ⟨⟨by decide,by decide⟩,by decide,by decide⟩
  have refused := (refused_iff _ _).mpr (.invalidField _ _ first)
  exact ⟨two,first,refused,(behind (by omega) _).mpr refused⟩

end ParseScope.Fixture
