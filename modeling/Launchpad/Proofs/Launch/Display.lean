import Launchpad.Proofs.Launch.Calls
import Launchpad.Proofs.Text.Quoted

/-!
Commands as messages show them. A reader who knows the program finds the arguments again: each of
them stands behind one space; a quote right behind that space starts a quoted argument, which holds
its own spaces, and anything else an argument that runs up to the next space. Only arguments that
start with a quote themselves are shown like something else.
-/

namespace Launchpad

open Text

namespace Command

/-! ### Reading -/

/-- Read one argument; what stands behind it is left over. -/
def readArg : List Char → Option (List Char × List Char)
  | '"' :: body => readQuoted .plain body
  | text => some (text.takeWhile (· ≠ ' '), text.dropWhile (· ≠ ' '))

theorem length_of_readArg {text arg rest : List Char} (h : readArg text = some (arg, rest)) :
    rest.length ≤ text.length := by
  unfold readArg at h
  split at h
  · exact Nat.le_succ_of_le (Nat.le_of_lt (length_of_readQuoted h))
  · cases h
    exact (List.dropWhile_suffix _).length_le

/-- Read arguments, each of which stands behind a space. -/
def readArgs : List Char → Option (List String)
  | [] => some []
  | c :: text =>
    if c = ' ' then
      match _h : readArg text with
      | none => none
      | some (arg, rest) => (readArgs rest).map (String.ofList arg :: ·)
    else none
termination_by text => text.length
decreasing_by exact Nat.lt_succ_of_le (length_of_readArg _h)

/-- The arguments that a text shows behind some other text. -/
def argsBehind? (lead text : String) : Option (List String) :=
  readArgs (text.toList.drop lead.toList.length)

/-! ### What is read -/

/-- The argument does not start with a quote. -/
def IsUnquoted (arg : String) : Prop := arg.toList.head? ≠ some '"'

instance (arg : String) : Decidable (IsUnquoted arg) := inferInstanceAs (Decidable (_ ≠ _))

/-- An argument ends where a space follows it or nothing. -/
theorem readArg_showArg {arg : String} (h : IsUnquoted arg) {rest : List Char}
    (hrest : ∀ c ∈ rest.head?, c = ' ') :
    readArg ((showArg arg).toList ++ rest) = some (arg.toList, rest) := by
  unfold showArg
  split_ifs with hquoted
  · rw [quote, String.toList_ofList, List.append_assoc, List.append_assoc, List.singleton_append,
      List.singleton_append, readArg]
    exact readQuoted_quoteBody arg.toList rest
  · simp only [Bool.or_eq_true, decide_eq_true_eq, not_or] at hquoted
    obtain ⟨hne, hblank⟩ := hquoted
    have hspace : ∀ c ∈ arg.toList, decide (c ≠ ' ') = true := by
      intro c hc
      refine decide_eq_true fun heq => hblank (List.any_eq_true.mpr ⟨c, hc, ?_⟩)
      rw [heq]
      decide
    have hend : rest.takeWhile (fun c => decide (c ≠ ' ')) = [] := by
      cases rest with
      | nil => rfl
      | cons c rest => simp [hrest c rfl]
    have hback : rest.dropWhile (fun c => decide (c ≠ ' ')) = rest := by
      cases rest with
      | nil => rfl
      | cons c rest => simp [hrest c rfl]
    have hlist : arg.toList ≠ [] := fun hnil => hne (String.toList_eq_nil_iff.mp hnil)
    obtain ⟨c, cs, hcs⟩ := List.exists_cons_of_ne_nil hlist
    have hc : c ≠ '"' := by
      rintro rfl
      exact h (by rw [hcs]; rfl)
    rw [readArg]
    · rw [List.takeWhile_append_of_pos hspace, List.dropWhile_append_of_pos hspace, hend, hback,
        List.append_nil]
    · rintro body hbody
      rw [hcs, List.cons_append, List.cons.injEq] at hbody
      exact hc hbody.1

theorem readArgs_cons {arg : String} {rest shown : List Char}
    (h : readArg shown = some (arg.toList, rest)) :
    readArgs (' ' :: shown) = (readArgs rest).map (arg :: ·) := by
  rw [readArgs, if_pos rfl]
  split
  · rename_i hnone
    rw [h] at hnone
    cases hnone
  · rename_i arg' rest' hsome
    rw [h, Option.some.injEq, Prod.mk.injEq] at hsome
    rw [← hsome.1, ← hsome.2, String.ofList_toList]

/-- The shown arguments are read back one after the other. -/
theorem readArgs_shown {args : List String} (h : ∀ arg ∈ args, IsUnquoted arg) :
    readArgs (String.join (args.map (" " ++ showArg ·))).toList = some args := by
  induction args with
  | nil => simp [readArgs]
  | cons arg args ih =>
    have htail := ih fun other hother => h other (List.mem_cons_of_mem arg hother)
    have hrest : ∀ c ∈ (String.join (args.map (" " ++ showArg ·))).toList.head?, c = ' ' := by
      cases args with
      | nil => simp
      | cons next args => simp [String.join_cons]
    have hread := readArg_showArg (h arg List.mem_cons_self) hrest
    rw [List.map_cons, String.join_cons, String.toList_append, String.toList_append]
    change readArgs (' ' :: ((showArg arg).toList ++ _)) = _
    rw [readArgs_cons hread, htail]
    rfl

theorem argsBehind?_display (lead : String) {c : Command} (h : ∀ arg ∈ c.args, IsUnquoted arg) :
    argsBehind? (lead ++ c.program) (lead ++ c.display) = some c.args := by
  rw [argsBehind?, display, ← String.append_assoc]
  generalize lead ++ c.program = front
  rw [String.toList_append, List.drop_left]
  exact readArgs_shown h

end Command

/-! ### The messages -/

/-- A text up to its last single quote. -/
def beforeLastQuote (text : String) : String :=
  String.ofList ((text.toList.reverse.dropWhile (· ≠ '\'')).drop 1).reverse

theorem beforeLastQuote_append (text : String) {ending : String} (h : '\'' ∉ ending.toList) :
    beforeLastQuote (text ++ "'" ++ ending) = text := by
  have hending : ∀ c ∈ ending.toList.reverse, decide (c ≠ '\'') = true := by
    intro c hc
    refine decide_eq_true fun heq => h ?_
    rw [← heq]
    exact List.mem_reverse.mp hc
  have hquote : ("'" : String).toList = ['\''] := rfl
  rw [beforeLastQuote, String.toList_append, String.toList_append, hquote, List.reverse_append,
    List.reverse_append, List.dropWhile_append_of_pos hending]
  simp

theorem quote_not_mem_toString (status : Int) : '\'' ∉ (toString status).toList := by
  have hdigits : ∀ n : Nat, '\'' ∉ n.repr.toList := by
    intro n hmem
    rw [Nat.repr_eq_ofList_toDigits, String.toList_ofList] at hmem
    have hdigit := Nat.isDigit_of_mem_toDigits (by decide) (by decide) hmem
    revert hdigit
    decide
  cases status with
  | ofNat n => exact hdigits n
  | negSucc n =>
    change '\'' ∉ ("-" ++ (n + 1).repr).toList
    rw [String.toList_append, List.mem_append, not_or]
    exact ⟨by decide, hdigits (n + 1)⟩

/-- The failure of a child shows its command between quotes, of which the last one in the message
ends it. -/
theorem Failure.beforeLastQuote_message (c : Command) (status : Int) :
    beforeLastQuote (Failure.child c status).message = "'" ++ c.display := by
  have hmessage : (Failure.child c status).message =
      "'" ++ c.display ++ "'" ++ (" exited with status " ++ toString status) := by
    rw [← String.append_assoc]
    rfl
  rw [hmessage]
  apply beforeLastQuote_append
  rw [String.toList_append, List.mem_append, not_or]
  exact ⟨by decide, quote_not_mem_toString status⟩

/-- A launch is announced in the log before anything else happens. -/
theorem Host.journal_await (host : Host) (c : Command) (expectation : Expectation) (w : World) :
    ∃ events, ((host.await c expectation).perform w).2.journal =
      w.journal ++ c.starts :: events := by
  have hcall : ∃ events, ((host.executor.call .run c).perform (w.record c.starts)).2.journal =
      w.journal ++ c.starts :: events := by
    rw [Action.perform_call]
    exact ⟨_, by simp only [World.record, List.append_assoc, List.singleton_append]; rfl⟩
  obtain ⟨events, hevents⟩ := hcall
  rcases host.await_world c expectation w with hworld | ⟨status, hworld⟩
  · exact ⟨events, by rw [hworld, hevents]⟩
  · refine ⟨events ++ [c.endsOddly status], ?_⟩
    rw [hworld, World.record, hevents, List.append_assoc, List.cons_append]

/-- Whoever knows the program of a command finds its arguments in the text that shows the command,
in the entry that announces it in the log, and in the failure of a child that it started, unless an
argument starts with a quote. So commands of one program that are shown alike have the same
arguments. -/
theorem display_tells_args (c : Command) (h : ∀ arg ∈ c.args, Command.IsUnquoted arg) :
    Command.argsBehind? c.program c.display = some c.args ∧
    (∀ (host : Host) (expectation : Expectation) (w : World), ∃ entry events,
      ((host.await c expectation).perform w).2.journal =
          w.journal ++ .logged entry :: events ∧
        Command.argsBehind? ("Running " ++ c.program) entry.message = some c.args) ∧
    (∀ status, Command.argsBehind? ("'" ++ c.program)
      (beforeLastQuote (Failure.child c status).message) = some c.args) ∧
    ∀ other : Command, other.program = c.program →
      (∀ arg ∈ other.args, Command.IsUnquoted arg) → other.display = c.display →
      other.args = c.args := by
  have hread : ∀ {c : Command}, (∀ arg ∈ c.args, Command.IsUnquoted arg) →
      Command.argsBehind? c.program c.display = some c.args := by
    intro c h
    have hempty := Command.argsBehind?_display "" h
    rwa [String.empty_append, String.empty_append] at hempty
  refine ⟨hread h, ?_, ?_, ?_⟩
  · intro host expectation w
    obtain ⟨events, hevents⟩ := host.journal_await c expectation w
    exact ⟨_, events, hevents, Command.argsBehind?_display "Running " h⟩
  · intro status
    rw [Failure.beforeLastQuote_message]
    exact Command.argsBehind?_display "'" h
  · intro other hprogram hother hdisplay
    have hboth := hread hother
    rw [hprogram, hdisplay, hread h, Option.some.injEq] at hboth
    exact hboth.symm

/-- An empty argument, white space, quotes and a backslash that were not the first character, a
control, a combining mark, and what looks like an escape. -/
theorem display_tells_odd_args :
    let c : Command :=
      { program := "p", args := ["", "a \"b", "c\"\\", "\n\x01", "\u0301 ", "\\n"], cwd? := none }
    let shown := "p \"\" \"a \\\"b\" c\"\\ \"\\n\\u\x7b1\x7d\" \"\\u\x7b301\x7d \" \\n"
    c.display = shown ∧ Command.argsBehind? "p" shown = some c.args := by
  intro c shown
  have hdisplay : c.display = shown := by decide +kernel
  refine ⟨hdisplay, ?_⟩
  rw [← hdisplay]
  exact (display_tells_args c (by decide)).1

-- An argument that starts with a quote is shown like the start of a quoted one.
example : Command.display { program := "p", args := ["\"a", "b\""], cwd? := none } =
    Command.display { program := "p", args := ["a b"], cwd? := none } := by decide +kernel

end Launchpad
