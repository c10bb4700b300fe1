import Mathlib.Data.List.Forall2
import ParseScope.Proofs.Trace.Forest
import ParseScope.Proofs.Trace.Wire
import ParseScope.Trace.Log

/-!
What a log shows of the input. Each line shows a stretch of it; the lines that follow a record show
all that lies between its end and the end of any later record. Records that come in turn are laid
out end to end, so then nothing is shown twice.
-/
namespace ParseScope.Trace

/-- The input from `start` up to `stop`; either may lie past its end. -/
structure Stretch where
  start : Nat
  stop : Nat
  deriving DecidableEq, Repr

namespace Stretch

def contains (stretch : Stretch) (position : Nat) : Bool :=
  stretch.start ≤ position && position < stretch.stop

/-- The characters of the stretch. -/
def of (input : List Char) (stretch : Stretch) : List Char :=
  Text.slice input stretch.start stretch.stop

theorem contains_iff (stretch : Stretch) (position : Nat) :
    stretch.contains position = true ↔ stretch.start ≤ position ∧ position < stretch.stop := by
  simp [contains]

/-- A position of the stretch has its character there. -/
theorem getElem?_of (stretch : Stretch) (input : List Char) (position : Nat)
    (inside : stretch.contains position = true) :
    (stretch.of input)[position - stretch.start]? = input[position]? := by
  obtain ⟨after,before⟩ := (stretch.contains_iff position).mp inside
  rw [of,Text.slice,List.getElem?_drop,Nat.add_sub_cancel' after,List.getElem?_take_of_lt before]

end Stretch

/-- The stretches on the lines of a trace that follows the record `previous`. -/
def stretchesAfter : Record → Trace → List Stretch
  | _, [] => []
  | previous, record :: rest =>
    let more := ⟨record.start,record.stop⟩ :: stretchesAfter record rest
    if previous.stop < record.start then ⟨previous.stop,record.start⟩ :: more else more

/-- The stretches of the input on the lines of a log: what each record covers, and what was skipped
between the end of a record and a later start of the next. -/
def stretches : Trace → List Stretch
  | [] => []
  | record :: rest => ⟨record.start,record.stop⟩ :: stretchesAfter record rest

/-- The input that a line shows, before it is written on one line. -/
def LogLine.shown : LogLine → List Char
  | gap _ skipped => skipped
  | attempt _ _ _ matched => matched

/-- The line shows the stretch, in quotes at its end. -/
structure LogLine.Shows (input indent : List Char) (line : LogLine) (stretch : Stretch) : Prop where
  shown : line.shown = stretch.of input
  quoted : ∃ lead, line.render indent =
    lead ++ '"' :: Text.oneLine (stretch.of input) ++ ['"','\n']

theorem LogLine.render_eq (indent : List Char) (line : LogLine) :
    ∃ lead, line.render indent = lead ++ '"' :: Text.oneLine line.shown ++ ['"','\n'] := by
  cases line with
  | gap depth skipped =>
    refine ⟨Text.repeated depth indent,?_⟩
    simp [render,LogLine.depth,name,tail,shown]
  | attempt depth failed name matched =>
    refine ⟨Text.repeated depth indent ++ name.toList ++ [' '],?_⟩
    simp [render,LogLine.depth,LogLine.name,tail,shown]

theorem LogLine.shows (input indent : List Char) (line : LogLine) (stretch : Stretch)
    (shown : line.shown = stretch.of input) : line.Shows input indent stretch :=
  ⟨shown,shown ▸ line.render_eq indent⟩

theorem map_shown_logLinesAfter (input : List Char) (rules : Rules) (previous : Record)
    (records : Trace) : (logLinesAfter input rules previous records).map LogLine.shown =
      (stretchesAfter previous records).map (Stretch.of input) := by
  induction records generalizing previous with
  | nil => rfl
  | cons record rest ih =>
    rw [logLinesAfter,stretchesAfter]
    split <;> simp [ih,LogLine.shown,LogLine.ofRecord,Stretch.of]

theorem map_shown_logLines (input : List Char) (rules : Rules) (records : Trace) :
    (logLines input rules records).map LogLine.shown =
      (stretches records).map (Stretch.of input) := by
  cases records with
  | nil => rfl
  | cons record rest =>
    rw [logLines,stretches,List.map_cons,List.map_cons,map_shown_logLinesAfter]
    rfl

/-! ### Nothing is left out -/

theorem mem_stretchesAfter_cons (previous record : Record) (rest : Trace) (stretch : Stretch) :
    stretch ∈ stretchesAfter previous (record :: rest) ↔
      (previous.stop < record.start ∧ stretch = ⟨previous.stop,record.start⟩) ∨
      stretch = ⟨record.start,record.stop⟩ ∨ stretch ∈ stretchesAfter record rest := by
  rw [stretchesAfter]
  split
  · next skipped => simp [skipped]
  · next follows => simp [follows]

/-- Past the end of a record, all that a later one reaches is shown. -/
theorem exists_stretch_after (previous : Record) (records : Trace) (position : Nat)
    (passed : previous.stop ≤ position) (reached : ∃ record ∈ records, position < record.stop) :
    ∃ stretch ∈ stretchesAfter previous records, stretch.contains position = true := by
  induction records generalizing previous with
  | nil => simp at reached
  | cons record rest ih =>
    simp only [mem_stretchesAfter_cons,Stretch.contains_iff] at ih ⊢
    by_cases before : position < record.start
    · -- The record starts late, so the gap before it is shown up to its start.
      exact ⟨⟨previous.stop,record.start⟩,.inl ⟨Nat.lt_of_le_of_lt passed before,rfl⟩,passed,before⟩
    · by_cases inside : position < record.stop
      · exact ⟨⟨record.start,record.stop⟩,.inr (.inl rfl),Nat.le_of_not_lt before,inside⟩
      · -- The record ends before the position, which only a later one reaches.
        have later : ∃ other ∈ rest, position < other.stop := by simpa [inside] using reached
        obtain ⟨stretch,member,contains⟩ := ih record (Nat.le_of_not_lt inside) later
        exact ⟨stretch,.inr (.inr member),contains⟩

theorem exists_stretch (first : Record) (rest : Trace) (position : Nat)
    (started : first.start ≤ position)
    (reached : ∃ record ∈ first :: rest, position < record.stop) :
    ∃ stretch ∈ stretches (first :: rest), stretch.contains position = true := by
  by_cases inside : position < first.stop
  · exact ⟨_,List.mem_cons_self,(Stretch.contains_iff _ _).mpr ⟨started,inside⟩⟩
  · have later : ∃ other ∈ rest, position < other.stop := by simpa [inside] using reached
    obtain ⟨stretch,member,contains⟩ :=
      exists_stretch_after first rest position (Nat.le_of_not_lt inside) later
    exact ⟨stretch,List.mem_cons_of_mem _ member,contains⟩

/-! ### Nothing is shown twice -/

/-- Stretches end to end from `start` up to `stop`. -/
inductive Tiles : Nat → List Stretch → Nat → Prop
  | nil (stop : Nat) : Tiles stop [] stop
  | cons (start middle stop : Nat) (rest : List Stretch) (forward : start ≤ middle)
      (tiles : Tiles middle rest stop) : Tiles start (⟨start,middle⟩ :: rest) stop

namespace Tiles

variable {start stop : Nat} {laid : List Stretch}

theorem le (tiles : Tiles start laid stop) : start ≤ stop := by
  induction tiles with
  | nil => exact Nat.le_refl _
  | cons _ _ _ _ forward _ ih => exact Nat.le_trans forward ih

theorem start_le (tiles : Tiles start laid stop) : ∀ stretch ∈ laid, start ≤ stretch.start := by
  induction tiles with
  | nil => simp
  | cons _ _ _ _ forward _ ih =>
    intro stretch member
    rcases List.mem_cons.mp member with rfl | member
    · exact Nat.le_refl _
    · exact Nat.le_trans forward (ih stretch member)

theorem countP_le_one (tiles : Tiles start laid stop) (position : Nat) :
    laid.countP (·.contains position) ≤ 1 := by
  induction tiles with
  | nil => exact Nat.zero_le 1
  | cons start middle stop rest _ tiles ih =>
    rw [List.countP_cons]
    split
    · next inside =>
      have none : rest.countP (·.contains position) = 0 := by
        apply List.countP_eq_zero.mpr
        intro stretch member again
        have follows := tiles.start_le stretch member
        rw [Stretch.contains_iff] at inside again
        exact absurd inside.2 (Nat.not_lt.mpr (Nat.le_trans follows again.1))
      exact Nat.le_of_eq (congrArg (· + 1) none)
    · exact ih

theorem flatMap_of (tiles : Tiles start laid stop) (input : List Char) :
    laid.flatMap (Stretch.of input) = Text.slice input start stop := by
  induction tiles with
  | nil stop => simp [Text.slice_eq_take_drop]
  | cons start middle stop rest forward tiles ih =>
    rw [List.flatMap_cons,ih]
    exact Text.slice_append_slice input forward tiles.le

end Tiles

/-- After a record, those that come in turn are laid out from its end to that of the last. -/
theorem tiles_stretchesAfter (previous : Record) (records : Trace)
    (inTurn : Forest.InTurn (previous :: records))
    (ordered : ∀ record ∈ records, record.start ≤ record.stop) :
    Tiles previous.stop (stretchesAfter previous records)
      ((previous :: records).getLast (List.cons_ne_nil _ _)).stop := by
  induction records generalizing previous with
  | nil => exact .nil _
  | cons record rest ih =>
    obtain ⟨follows,inTurn⟩ := List.isChain_cons_cons.mp inTurn
    obtain ⟨forward,ordered⟩ := List.forall_mem_cons.mp ordered
    have others : Tiles record.start (⟨record.start,record.stop⟩ :: stretchesAfter record rest)
        ((record :: rest).getLast (List.cons_ne_nil _ _)).stop :=
      .cons _ _ _ _ forward (ih record inTurn ordered)
    rw [stretchesAfter,List.getLast_cons_cons]
    split
    · exact .cons _ _ _ _ follows others
    · next adjacent =>
      rwa [Nat.le_antisymm follows (Nat.le_of_not_lt adjacent)]

theorem tiles_stretches (first : Record) (rest : Trace) (inTurn : Forest.InTurn (first :: rest))
    (ordered : ∀ record ∈ first :: rest, record.start ≤ record.stop) :
    Tiles first.start (stretches (first :: rest))
      ((first :: rest).getLast (List.cons_ne_nil _ _)).stop := by
  obtain ⟨forward,ordered⟩ := List.forall_mem_cons.mp ordered
  exact .cons _ _ _ _ forward (tiles_stretchesAfter first rest inTurn ordered)

theorem forall₂_shows (input indent : List Char) (rules : Rules) (records : Trace) :
    List.Forall₂ (LogLine.Shows input indent) (logLines input rules records)
      (stretches records) := by
  have same : List.Forall₂ Eq ((logLines input rules records).map LogLine.shown)
      ((stretches records).map (Stretch.of input)) := by
    rw [map_shown_logLines,List.forall₂_eq_eq_eq]
  rw [List.forall₂_map_left_iff,List.forall₂_map_right_iff] at same
  exact same.imp (LogLine.shows input indent)

/-- Skipped input never disappears from the log of a trace that was read. Each line shows one of the
stretches; from the start of the first record on, every position up to the furthest end lies in one
of them, in whatever order the records start and end. When they come in turn it lies in no other,
and the lines together show the input from the first start to the last end. -/
theorem log_shows_reached (input : String) (rules table : Rules) (indent : String)
    (buffer : List Int64) (first : Record) (rest : Trace)
    (decoded : ofWire buffer table = .ok (first :: rest)) :
    (log input rules indent (first :: rest)).text.toList =
      (logLines input.toList rules (first :: rest)).flatMap (LogLine.render indent.toList) ∧
    List.Forall₂ (LogLine.Shows input.toList indent.toList)
      (logLines input.toList rules (first :: rest)) (stretches (first :: rest)) ∧
    (∀ position, first.start ≤ position → position < input.toList.length →
      (∃ record ∈ first :: rest, position < record.stop) →
      (∃ stretch ∈ stretches (first :: rest), stretch.contains position = true ∧
        (stretch.of input.toList)[position - stretch.start]? = input.toList[position]?) ∧
      (Forest.InTurn (first :: rest) →
        (stretches (first :: rest)).countP (·.contains position) = 1)) ∧
    (Forest.InTurn (first :: rest) →
      (logLines input.toList rules (first :: rest)).flatMap LogLine.shown =
        Text.slice input.toList first.start
          ((first :: rest).getLast (List.cons_ne_nil first rest)).stop) := by
  have ordered : ∀ record ∈ first :: rest, record.start ≤ record.stop := fun record member =>
    (((ofWire_eq_ok_iff_encodes table buffer _).mp decoded).2 record member).2
  refine ⟨by rw [log,String.toList_ofList],forall₂_shows _ _ rules _,?_,fun inTurn => ?_⟩
  · intro position started _ reached
    obtain ⟨stretch,member,contains⟩ := exists_stretch first rest position started reached
    refine ⟨⟨stretch,member,contains,stretch.getElem?_of _ position contains⟩,fun inTurn => ?_⟩
    have some : 0 < (stretches (first :: rest)).countP (·.contains position) :=
      List.countP_pos_iff.mpr ⟨stretch,member,contains⟩
    exact Nat.le_antisymm ((tiles_stretches first rest inTurn ordered).countP_le_one position) some
  · rw [List.flatMap_def,map_shown_logLines,← List.flatMap_def]
    exact (tiles_stretches first rest inTurn ordered).flatMap_of input.toList

/-- A retry that ends further left than the attempt before it; the last record leaves a gap behind
the retry, which was shown before, and goes on past the end of the input. -/
def retriedTrace : Trace :=
  [⟨.failure 0, 1, 1, 4⟩, ⟨.success 1, 1, 1, 2⟩, ⟨.success 0, 0, 5, 9⟩]

/-- The same without the first attempt. -/
def steppedTrace : Trace := [⟨.success 1, 1, 1, 2⟩, ⟨.success 0, 0, 5, 9⟩]

theorem log_shows_reached_gap :
    (ofWire [-1,1,1,4, 1,1,1,2, 0,0,5,9] ⟨["a","b"]⟩ = .ok retriedTrace ∧
      ∃ stretch ∈ stretches retriedTrace, stretch.contains 4 = true ∧
        (stretch.of "xñy\n\tz".toList)[4 - stretch.start]? = some '\t') ∧
    ofWire [1,1,1,2, 0,0,5,9] ⟨["a","b"]⟩ = .ok steppedTrace ∧ Forest.InTurn steppedTrace ∧
      (stretches steppedTrace).countP (·.contains 4) = 1 ∧
      (logLines "xñy\n\tz".toList ⟨["a","b"]⟩ steppedTrace).flatMap LogLine.shown =
        ['ñ','y','\n','\t','z'] := by
  have retried : ofWire [-1,1,1,4, 1,1,1,2, 0,0,5,9] ⟨["a","b"]⟩ = .ok retriedTrace := by decide
  have stepped : ofWire [1,1,1,2, 0,0,5,9] ⟨["a","b"]⟩ = .ok steppedTrace := by decide
  have inTurn : Forest.InTurn steppedTrace := by simp [Forest.InTurn,steppedTrace]
  obtain ⟨_,_,covered,_⟩ := log_shows_reached "xñy\n\tz" ⟨["a","b"]⟩ _ "  " _ _ _ retried
  obtain ⟨_,_,once,whole⟩ := log_shows_reached "xñy\n\tz" ⟨["a","b"]⟩ _ "  " _ _ _ stepped
  refine ⟨⟨retried,?_⟩,stepped,inTurn,?_,?_⟩
  · exact (covered 4 (by decide) (by decide) (by decide)).1
  · exact (once 4 (by decide) (by decide) (by decide)).2 inTurn
  · exact (whole inTurn).trans (by decide)

end ParseScope.Trace
