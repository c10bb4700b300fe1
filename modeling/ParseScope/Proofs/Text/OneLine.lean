import Mathlib.Data.List.Basic
import ParseScope.Text.Basic

/-!
Texts on one line. Every line break, of one character or two, is shown as a line feed is, so a text
may be put on its line in pieces unless one of them ends inside a line break.
-/
namespace ParseScope.Text

/-- Without the carriage returns that a line feed follows. -/
def joinBreaks : List Char → List Char
  | [] => []
  | '\r' :: '\n' :: rest => '\n' :: joinBreaks rest
  | c :: rest => c :: joinBreaks rest

def feedForReturn (c : Char) : Char := if c = '\r' then '\n' else c

/-- With a line feed for every line break: first for the pairs, then for the carriage returns that
are left. -/
def withFeeds (text : List Char) : List Char := (joinBreaks text).map feedForReturn

/-- Between the two texts a carriage return is parted from its line feed. -/
def Parted (a b : List Char) : Prop := a.getLast? = some '\r' ∧ b.head? = some '\n'

instance (a b : List Char) : Decidable (Parted a b) :=
  inferInstanceAs (Decidable (a.getLast? = some '\r' ∧ b.head? = some '\n'))

/-- The character is shown as it is. -/
def Inline (c : Char) : Prop := c ≠ '\n' ∧ c ≠ '\r' ∧ c ≠ '\t'

instance (c : Char) : Decidable (Inline c) :=
  inferInstanceAs (Decidable (c ≠ '\n' ∧ c ≠ '\r' ∧ c ≠ '\t'))

/-! ### Line breaks -/

theorem Parted.behind {a b : List Char} (parted : Parted a b) (c : Char) : Parted (c :: a) b :=
  ⟨by rw [List.getLast?_cons,parted.1,Option.getD_some],parted.2⟩

theorem joinBreaks_cons (c : Char) (rest : List Char) (whole : ¬ Parted [c] rest) :
    joinBreaks (c :: rest) = c :: joinBreaks rest := by
  rw [joinBreaks]
  rintro after rfl rfl
  exact whole ⟨rfl,rfl⟩

theorem joinBreaks_append (a b : List Char) (whole : ¬ Parted a b) :
    joinBreaks (a ++ b) = joinBreaks a ++ joinBreaks b := by
  fun_induction joinBreaks a with
  | case1 => rfl
  | case2 rest ih =>
    have inner : ¬ Parted rest b := fun parted => whole ((parted.behind '\n').behind '\r')
    rw [List.cons_append,List.cons_append,joinBreaks,ih inner,List.cons_append]
  | case3 c rest single ih =>
    have inner : ¬ Parted rest b := fun parted => whole (parted.behind c)
    -- The character after `c` is in `rest`, or it is the first of `b`.
    have first : ¬ Parted [c] (rest ++ b) := by
      rintro ⟨back,feed⟩
      cases rest with
      | nil => exact whole ⟨back,feed⟩
      | cons d rest => exact single rest (Option.some.inj back) (by simpa using feed)
    rw [List.cons_append,joinBreaks_cons c _ first,ih inner,List.cons_append]

theorem return_not_mem_withFeeds (text : List Char) : '\r' ∉ withFeeds text := by
  intro member
  obtain ⟨c,_,same⟩ := List.mem_map.mp member
  rw [feedForReturn] at same
  split at same
  · exact absurd same (by decide)
  · contradiction

theorem joinBreaks_eq_self (text : List Char) (feeds : '\r' ∉ text) : joinBreaks text = text := by
  induction text with
  | nil => rfl
  | cons c rest ih =>
    obtain ⟨other,feeds⟩ := List.ne_and_not_mem_of_not_mem_cons feeds
    have whole : ¬ Parted [c] rest := fun parted => other (Option.some.inj parted.1).symm
    rw [joinBreaks_cons c rest whole,ih feeds]

/-! ### Characters -/

theorem inline_of_mem_escapeChar (c d : Char) (member : d ∈ escapeChar c) : Inline d := by
  rw [escapeChar] at member
  split at member
  · rcases List.mem_pair.mp member with rfl | rfl
    · decide
    · decide
  · next noBreak =>
    split at member
    · rcases List.mem_pair.mp member with rfl | rfl
      · decide
      · decide
    · next noTab =>
      obtain rfl := List.mem_singleton.mp member
      exact ⟨mt .inl noBreak,mt .inr noBreak,noTab⟩

theorem escapeChar_inline (c : Char) (inline : Inline c) : escapeChar c = [c] := by
  obtain ⟨noFeed,noReturn,noTab⟩ := inline
  simp [escapeChar,noFeed,noReturn,noTab]

theorem escapeChar_feedForReturn (c : Char) : escapeChar (feedForReturn c) = escapeChar c := by
  rw [feedForReturn]
  split
  · next back => rw [back]; rfl
  · rfl

/-- A text is escaped character by character once its line breaks are joined. -/
theorem oneLine_eq_flatMap (text : List Char) :
    oneLine text = (joinBreaks text).flatMap escapeChar := by
  fun_induction oneLine text with
  | case1 => rfl
  | case2 rest ih => rw [joinBreaks,List.flatMap_cons,← ih]; rfl
  | case3 c rest single ih => rw [joinBreaks,List.flatMap_cons,← ih]; exact single

theorem inline_of_mem_oneLine (text : List Char) (c : Char) (member : c ∈ oneLine text) :
    Inline c := by
  rw [oneLine_eq_flatMap] at member
  obtain ⟨d,_,inside⟩ := List.mem_flatMap.mp member
  exact inline_of_mem_escapeChar d c inside

theorem feed_not_mem_oneLine (text : List Char) : '\n' ∉ oneLine text :=
  fun member => (inline_of_mem_oneLine text _ member).1 rfl

theorem oneLine_eq_self (text : List Char) (inline : ∀ c ∈ text, Inline c) : oneLine text = text := by
  have feeds : '\r' ∉ text := fun member => (inline '\r' member).2.1 rfl
  have escapes : text.flatMap escapeChar = text.flatMap fun c => [c] :=
    List.flatMap_congr fun c member => escapeChar_inline c (inline c member)
  rw [oneLine_eq_flatMap,joinBreaks_eq_self text feeds,escapes,List.flatMap_singleton']

theorem oneLine_append (a b : List Char) (whole : ¬ Parted a b) :
    oneLine (a ++ b) = oneLine a ++ oneLine b := by
  simp only [oneLine_eq_flatMap,joinBreaks_append a b whole,List.flatMap_append]

/-- A carriage return goes when its line feed is put behind it. -/
theorem oneLine_append_of_parted (a b : List Char) (parted : Parted a b) :
    oneLine (a ++ b) = oneLine a.dropLast ++ oneLine b := by
  obtain ⟨front,rfl⟩ := List.getLast?_eq_some_iff.mp parted.1
  obtain ⟨rest,rfl⟩ := List.head?_eq_some_iff.mp parted.2
  have whole : ¬ Parted front ('\r' :: '\n' :: rest) := fun other => absurd other.2 (by simp)
  have pair : oneLine ('\r' :: '\n' :: rest) = oneLine ('\n' :: rest) := by
    simp [oneLine,escapeChar]
  rw [List.append_assoc,List.singleton_append,oneLine_append _ _ whole,pair,List.dropLast_concat]

theorem oneLine_withFeeds (text : List Char) : oneLine (withFeeds text) = oneLine text := by
  rw [oneLine_eq_flatMap,joinBreaks_eq_self _ (return_not_mem_withFeeds text),oneLine_eq_flatMap,
    withFeeds,List.flatMap_map]
  exact List.flatMap_congr fun c _ => escapeChar_feedForReturn c

/-- Texts are put on one line piece by piece, but a carriage return that ends a piece goes when a
line feed begins the next. The line holds no line break and no tab and is not changed by doing so
again, and all line breaks come to the same as line feeds. -/
theorem oneLine_by_pieces :
    (∀ a b, oneLine (a ++ b) =
      if Parted a b then oneLine a.dropLast ++ oneLine b else oneLine a ++ oneLine b) ∧
    (∀ text, '\n' ∉ oneLine text ∧ '\r' ∉ oneLine text ∧ '\t' ∉ oneLine text) ∧
    (∀ text, oneLine (oneLine text) = oneLine text) ∧
    ∀ text, oneLine (withFeeds text) = oneLine text := by
  refine ⟨fun a b => ?_,fun text => ?_,fun text => ?_,oneLine_withFeeds⟩
  · split
    · next parted => exact oneLine_append_of_parted a b parted
    · next whole => exact oneLine_append a b whole
  · have inline := inline_of_mem_oneLine text
    exact ⟨feed_not_mem_oneLine text,fun member => (inline _ member).2.1 rfl,
      fun member => (inline _ member).2.2 rfl⟩
  · exact oneLine_eq_self _ (inline_of_mem_oneLine text)

/-- Of three line breaks in a row the second is a pair, here parted. -/
example : oneLine ['\r','\r'] ++ oneLine ['\n','\r'] ≠ oneLine ['\r','\r','\n','\r'] ∧
    withFeeds ['\r','\r','\n','\r'] = ['\n','\n','\n'] := by decide

end ParseScope.Text
