import PowerLink.Console.Editor
import Mathlib.Data.List.Destutter
import Mathlib.Tactic

/-!
# The history of entered lines

Every key either enters the line or leaves the history as it is, so the history is a
function of the lines that were entered: newest first, with runs of equal lines
collapsed, and cut to its size.  The collapsing is done one line at a time by comparing
with the newest entry, and the cut does not disturb it because it never takes the newest
entry away.

The position in the history counts how many lines back the line shown is.  It cannot
leave the history: only an entered line changes the history, and that also returns to
position zero.
-/

namespace PowerLink

/-- The line that has been entered, if the key has led to that. -/
def Editor.Effect.entered? : Editor.Effect → Option String
  | .entered line => some line
  | _ => none

/-- The position after an arrow key, between zero and the length of the history. -/
def Key.moveWithin (length position : Nat) : Key → Nat
  | .up => min length (position + 1)
  | .down => position - 1
  | _ => position

namespace Editor

/-- Presses keys one after the other, and returns what each of them has led to. -/
def pressEach (editor : Editor) : List Key → Editor × List Effect
  | [] => (editor, [])
  | key :: rest =>
    let (editor, effect) := editor.press key
    let (editor, effects) := editor.pressEach rest
    (editor, effect :: effects)

/-! ## One key -/

variable {editor : Editor} {key : Key}

theorem scroll_scrollUp_le (hscroll : editor.scroll ≤ editor.history.length) :
    editor.scrollUp.scroll ≤ editor.history.length := by
  unfold scrollUp
  split
  next line hline =>
    have hlt := (List.getElem?_eq_some_iff.mp hline).1
    exact hlt
  next => exact hscroll

theorem history_scrollUp (editor : Editor) : editor.scrollUp.history = editor.history := by
  unfold scrollUp
  split
  next => rfl
  next => rfl

theorem scroll_scrollDown_le (editor : Editor) : editor.scrollDown.scroll ≤ editor.scroll := by
  unfold scrollDown
  split
  next => exact Nat.zero_le _
  next =>
    split
    next => exact Nat.sub_le _ _
    next => exact le_refl _

theorem history_scrollDown (editor : Editor) :
    editor.scrollDown.history = editor.history := by
  unfold scrollDown
  split
  next => rfl
  next =>
    split
    next => rfl
    next => rfl

/-- The key has entered no line, and the position is still within the history. -/
structure Keeps (editor : Editor) (pressed : Editor × Effect) : Prop where
  entered? : pressed.2.entered? = none
  history : pressed.1.history = editor.history
  scroll_le : editor.scroll ≤ editor.history.length →
    pressed.1.scroll ≤ editor.history.length

theorem enter_of_blank (hblank : isBlankLine editor.line = true) :
    editor.Keeps editor.enter := by
  rw [enter, if_pos hblank]
  exact ⟨rfl, rfl, fun _ => Nat.zero_le _⟩

theorem enter_of_not_blank (hblank : isBlankLine editor.line = false) :
    editor.enter =
      (⟨"", remember editor.line editor.history, 0⟩, .entered editor.line) := by
  rw [enter, if_neg (by simp [hblank])]
  rfl

theorem press_control (c : Char) :
    editor.press (.control c) =
      if c = 'c' ∨ c = 'd' then (editor, .quit)
      else if c = 'j' then editor.enter
      else if c = 'u' then (editor.clear, .pending)
      else (editor.type c, .pending) := by
  unfold press
  split
  all_goals simp_all

/-- A key enters a line that is not blank, or it keeps the history. -/
theorem press_enters_or_keeps (editor : Editor) (key : Key) :
    (isBlankLine editor.line = false ∧
        editor.press key =
          (⟨"", remember editor.line editor.history, 0⟩, .entered editor.line)) ∨
      editor.Keeps (editor.press key) := by
  have henter : (isBlankLine editor.line = false ∧
        editor.enter =
          (⟨"", remember editor.line editor.history, 0⟩, .entered editor.line)) ∨
      editor.Keeps editor.enter := by
    cases hblank : isBlankLine editor.line with
    | true => exact .inr (enter_of_blank hblank)
    | false => exact .inl ⟨rfl, enter_of_not_blank hblank⟩
  cases key with
  | enter => exact henter
  | up =>
      exact .inr ⟨rfl, editor.history_scrollUp, fun hscroll => scroll_scrollUp_le hscroll⟩
  | down =>
      exact .inr ⟨rfl, editor.history_scrollDown,
        fun hscroll => (editor.scroll_scrollDown_le).trans hscroll⟩
  | escape => exact .inr ⟨rfl, rfl, fun _ => Nat.zero_le _⟩
  | char c => exact .inr ⟨rfl, rfl, fun hscroll => hscroll⟩
  | backspace => exact .inr ⟨rfl, rfl, fun hscroll => hscroll⟩
  | other => exact .inr ⟨rfl, rfl, fun hscroll => hscroll⟩
  | control c =>
      rw [press_control]
      split
      next => exact .inr ⟨rfl, rfl, fun hscroll => hscroll⟩
      next =>
        split
        next => exact henter
        next =>
          split
          next => exact .inr ⟨rfl, rfl, fun _ => Nat.zero_le _⟩
          next => exact .inr ⟨rfl, rfl, fun hscroll => hscroll⟩

/-! ## The history -/

theorem destutter_cons_eq (line : String) (entered : List String) :
    (line :: entered).destutter (· ≠ ·) =
      if (entered.destutter (· ≠ ·)).head? = some line then entered.destutter (· ≠ ·)
      else line :: entered.destutter (· ≠ ·) := by
  have hhead (lines : List String) (first : String) :
      (lines.destutter' (· ≠ ·) first).head? = some first := by
    induction lines generalizing first with
    | nil => rfl
    | cons next lines ih =>
        rw [List.destutter'_cons]
        split
        next => rfl
        next => exact ih first
  cases entered with
  | nil => rfl
  | cons newest older =>
      rw [List.destutter_cons', List.destutter_cons', hhead, List.destutter'_cons]
      by_cases hsame : line = newest
      · subst hsame
        simp
      · simp [hsame, Ne.symm hsame]

/-- Remembering a line adds it to the lines whose history this is. -/
theorem remember_destutter (line : String) (entered : List String) :
    remember line ((entered.destutter (· ≠ ·)).take historySize) =
      ((line :: entered).destutter (· ≠ ·)).take historySize := by
  have hhead : ((entered.destutter (· ≠ ·)).take historySize).head? =
      (entered.destutter (· ≠ ·)).head? := by
    rw [List.head?_take, if_neg (by decide)]
  unfold remember
  rw [hhead, destutter_cons_eq]
  split
  next => rfl
  next => simp [historySize, List.take_take]

/-- The history is that of the entered lines, newest first, and the position is in it. -/
structure Remembers (editor : Editor) (entered : List String) : Prop where
  history_eq : editor.history = (entered.destutter (· ≠ ·)).take historySize
  not_blank : ∀ line ∈ entered, isBlankLine line = false
  scroll_le : editor.scroll ≤ editor.history.length

theorem remembers_fresh : fresh.Remembers [] where
  history_eq := rfl
  not_blank := by simp
  scroll_le := le_refl 0

theorem Remembers.press {entered : List String} (hremembers : editor.Remembers entered)
    (key : Key) :
    (editor.press key).1.Remembers
      ((editor.press key).2.entered?.toList ++ entered) := by
  rcases editor.press_enters_or_keeps key with ⟨hblank, hpress⟩ | hkeeps
  · rw [hpress]
    constructor
    · rw [hremembers.history_eq]
      exact remember_destutter editor.line entered
    · intro line hline
      rcases List.mem_cons.mp hline with hnew | hold
      · rw [hnew, hblank]
      · exact hremembers.not_blank line hold
    · exact Nat.zero_le _
  · rw [hkeeps.entered?]
    constructor
    · rw [hkeeps.history, hremembers.history_eq]
      rfl
    · exact hremembers.not_blank
    · rw [hkeeps.history]
      exact hkeeps.scroll_le hremembers.scroll_le

theorem Remembers.pressEach {entered : List String} (hremembers : editor.Remembers entered)
    (keys : List Key) :
    (editor.pressEach keys).1.Remembers
      (((editor.pressEach keys).2.filterMap Effect.entered?).reverse ++ entered) := by
  induction keys generalizing editor entered with
  | nil => exact hremembers
  | cons key keys ih =>
      have hlater := ih (hremembers.press key)
      have hsplit (first : Effect) (later : List Effect) :
          ((first :: later).filterMap Effect.entered?).reverse =
            (later.filterMap Effect.entered?).reverse ++ first.entered?.toList := by
        rw [List.filterMap_cons]
        cases first.entered? with
        | none => simp
        | some line => simp
      rw [Editor.pressEach, hsplit, List.append_assoc]
      exact hlater

/-! ## Browsing -/

/-- The editor shows the line of the history at the position, where position zero is
the empty line. -/
structure Shows (editor : Editor) (history : List String) (position : Nat) : Prop where
  history_eq : editor.history = history
  scroll_eq : editor.scroll = position
  line_eq_empty : position = 0 → editor.line = ""
  line_eq : 0 < position → history[position - 1]? = some editor.line

namespace Shows

variable {history : List String} {position : Nat}

theorem le_length (hshows : editor.Shows history position) : position ≤ history.length := by
  by_cases hzero : position = 0
  · rw [hzero]
    exact Nat.zero_le _
  · have hline := hshows.line_eq (Nat.pos_of_ne_zero hzero)
    have hlt := (List.getElem?_eq_some_iff.mp hline).1
    omega

theorem scrollUp (hshows : editor.Shows history position) :
    editor.scrollUp.Shows history (min history.length (position + 1)) := by
  have hle := hshows.le_length
  unfold Editor.scrollUp
  rw [hshows.history_eq, hshows.scroll_eq]
  split
  next line hline =>
    have hlt := (List.getElem?_eq_some_iff.mp hline).1
    rw [Nat.min_eq_right hlt]
    exact ⟨rfl, rfl, by simp, fun _ => hline⟩
  next hnone =>
    have hlast : history.length = position := by
      have hge := List.getElem?_eq_none_iff.mp hnone
      omega
    rw [hlast, Nat.min_eq_left (Nat.le_succ position)]
    exact hshows

theorem scrollDown (hshows : editor.Shows history position) :
    editor.scrollDown.Shows history (position - 1) := by
  have hle := hshows.le_length
  unfold Editor.scrollDown
  rw [hshows.history_eq, hshows.scroll_eq]
  split
  next hfirst =>
    have hzero : position - 1 = 0 := by omega
    rw [hzero]
    exact ⟨hshows.history_eq, rfl, fun _ => rfl, by simp⟩
  next hfurther =>
    have hinside : position - 2 < history.length := by omega
    have hget : history[position - 2]? = some (history.get ⟨position - 2, hinside⟩) :=
      List.getElem?_eq_getElem hinside
    rw [hget]
    exact ⟨rfl, rfl, by omega, fun _ => hget⟩

theorem pressEach {arrows : List Key} (harrows : ∀ key ∈ arrows, key = .up ∨ key = .down)
    (hshows : editor.Shows history position) :
    (editor.pressEach arrows).1.Shows history
      (arrows.foldl (Key.moveWithin history.length) position) := by
  induction arrows generalizing editor position with
  | nil => exact hshows
  | cons key arrows ih =>
      have hlater := fun arrow harrow => harrows arrow (List.mem_cons_of_mem key harrow)
      rcases harrows key List.mem_cons_self with hup | hdown
      · subst hup
        exact ih hlater hshows.scrollUp
      · subst hdown
        exact ih hlater hshows.scrollDown

end Shows

/-! ## Whole sessions -/

/-- Whatever keys are pressed, the history is what was entered: newest first, equal lines
in a row only once, and at most 64 of them, none of which is blank. The position is in the
history, so that the next line forward exists wherever it is looked up. From an empty line
at position zero, arrows walk between zero and the length of the history, and the line is
the one at the position. -/
theorem history_of_entered_lines (keys : List Key) :
    let last := (fresh.pressEach keys).1
    let entered := (fresh.pressEach keys).2.filterMap Effect.entered?
    last.history = (entered.reverse.destutter (· ≠ ·)).take 64 ∧
      (∀ line ∈ last.history, isBlankLine line = false) ∧
      last.scroll ≤ last.history.length ∧
      (1 < last.scroll → ∃ line, last.history[last.scroll - 2]? = some line) ∧
      ∀ arrows, (∀ key ∈ arrows, key = .up ∨ key = .down) →
        last.line = "" → last.scroll = 0 →
          let browsed := (last.pressEach arrows).1
          let position := arrows.foldl (Key.moveWithin last.history.length) 0
          browsed.history = last.history ∧ browsed.scroll = position ∧
            position ≤ last.history.length ∧ (position = 0 → browsed.line = "") ∧
            (0 < position → last.history[position - 1]? = some browsed.line) := by
  intro last entered
  have hremembers : last.Remembers entered.reverse := by
    have hrun := remembers_fresh.pressEach keys
    rwa [List.append_nil] at hrun
  have hscroll := hremembers.scroll_le
  refine ⟨hremembers.history_eq, ?_, hscroll, ?_, ?_⟩
  · intro line hline
    rw [hremembers.history_eq] at hline
    apply hremembers.not_blank
    exact (List.destutter_sublist _ _).subset (List.mem_of_mem_take hline)
  · intro hforward
    have hlt : last.scroll - 2 < last.history.length := by omega
    exact ⟨_, List.getElem?_eq_getElem hlt⟩
  · intro arrows harrows hline hzero browsed position
    have hstart : last.Shows last.history 0 := ⟨rfl, hzero, fun _ => hline, by simp⟩
    have hshows : browsed.Shows last.history position := hstart.pressEach harrows
    exact ⟨hshows.history_eq, hshows.scroll_eq, hshows.le_length, hshows.line_eq_empty,
      hshows.line_eq⟩

/-- Two different lines, the first of them entered twice, and one arrow too many. -/
theorem history_of_entered_lines_repeated :
    let keys : List Key := [.char 'a', .enter, .char 'a', .enter, .char 'b', .enter]
    let arrows : List Key := [.up, .up, .up, .down]
    let last := (fresh.pressEach keys).1
    (∀ key ∈ arrows, key = .up ∨ key = .down) ∧ last.line = "" ∧ last.scroll = 0 ∧
      last.history = ["b", "a"] ∧ (last.pressEach arrows).1.line = "b" := by
  intro keys arrows last
  have harrows : ∀ key ∈ arrows, key = .up ∨ key = .down := by decide
  have hline : last.line = "" := by decide +kernel
  have hscroll : last.scroll = 0 := by decide +kernel
  have hhistory : last.history = ["b", "a"] := by decide +kernel
  rcases history_of_entered_lines keys with ⟨_, _, _, _, hbrowse⟩
  rcases hbrowse arrows harrows hline hscroll with ⟨_, _, _, _, hshown⟩
  have hposition : arrows.foldl (Key.moveWithin last.history.length) 0 = 1 := by
    rw [hhistory]
    rfl
  have hfirst := hshown (by rw [hposition]; exact Nat.one_pos)
  rw [hposition] at hfirst
  refine ⟨harrows, hline, hscroll, hhistory, ?_⟩
  have hnewest : last.history[0]? = some "b" := by rw [hhistory]; rfl
  exact (Option.some.inj (hnewest.symm.trans hfirst)).symm

end Editor

end PowerLink
