import Adocify.AsciiDoc.Render

/-! Where a rendering computation leads from a context. These equations are all that the proofs about
rendering use of the monad. -/

namespace Adocify.AsciiDoc.Render

variable {α β : Type}

/-- The result of a computation that begins in the context, and the context that it leaves. -/
def runIn (computation : Render α) (context : Context) : Except Failure α × Context := computation.run.run context

@[simp] theorem runIn_pure (value : α) (context : Context) :
    (pure value : Render α).runIn context = (.ok value, context) := rfl

theorem runIn_bind (first : Render α) (next : α → Render β) (context : Context) :
    (first >>= next).runIn context = match first.runIn context with
      | (.ok value, after) => (next value).runIn after
      | (.error failure, after) => (.error failure, after) := by
  simp only [runIn, ExceptT.run_bind, StateT.run_bind]
  rcases first.run.run context with ⟨_ | _, _⟩ <;> rfl

theorem runIn_bind_ok {first : Render α} {next : α → Render β} {context after : Context} {result : β} :
    (first >>= next).runIn context = (.ok result, after) ↔
      ∃ value between, first.runIn context = (.ok value, between) ∧ (next value).runIn between = (.ok result, after) := by
  rw [runIn_bind]
  rcases first.runIn context with ⟨failure | value, between⟩
  · exact ⟨nofun, nofun⟩
  · exact ⟨fun ended => ⟨value, between, rfl, ended⟩, fun ⟨_, _, rfl, ended⟩ => ended⟩

theorem runIn_pure_ok {value result : α} {context after : Context} :
    (pure value : Render α).runIn context = (.ok result, after) ↔ value = result ∧ context = after := by
  rw [runIn_pure, Prod.mk.injEq, Except.ok.injEq]

@[simp] theorem runIn_get (context : Context) : (get : Render Context).runIn context = (.ok context, context) := rfl

@[simp] theorem runIn_set (next context : Context) : (set next : Render Unit).runIn context = (.ok (), next) := rfl

@[simp] theorem runIn_modify (change : Context → Context) (context : Context) :
    (modify change : Render Unit).runIn context = (.ok (), change context) := rfl

@[simp] theorem runIn_liftM (result : Except Failure α) (context : Context) :
    (liftM result : Render α).runIn context = (result, context) := by
  cases result <;> rfl

/-- The list is left whatever becomes of its content. -/
theorem runIn_insideList (marker : Char) (content : Render α) (context : Context) :
    (insideList marker content).runIn context =
      let (result, after) := content.runIn { context with listStack := marker :: context.listStack }
      (result, { after with listStack := after.listStack.tail }) := rfl

/-- Each of them completes in the context that those before it leave. -/
theorem sequence_cons_ok {first : Render α} {rest : List (Render α)} {context after : Context} {results : List α} :
    (sequence (first :: rest)).runIn context = (.ok results, after) ↔
      ∃ value between values, first.runIn context = (.ok value, between) ∧
        (sequence rest).runIn between = (.ok values, after) ∧ results = value :: values := by
  constructor
  · intro ran
    obtain ⟨value, between, begun, ran⟩ := runIn_bind_ok.mp ran
    obtain ⟨values, last, ended, ran⟩ := runIn_bind_ok.mp ran
    obtain ⟨rfl, rfl⟩ := runIn_pure_ok.mp ran
    exact ⟨value, between, values, begun, ended, rfl⟩
  · intro ⟨value, between, values, begun, ended, same⟩
    subst same
    exact runIn_bind_ok.mpr ⟨value, between, begun, runIn_bind_ok.mpr ⟨values, after, ended, rfl⟩⟩

theorem sequence_append_ok {first rest : List (Render α)} {context after : Context} {results : List α}
    (ran : (sequence (first ++ rest)).runIn context = (.ok results, after)) :
    ∃ above between below, (sequence first).runIn context = (.ok above, between) ∧
      (sequence rest).runIn between = (.ok below, after) ∧ results = above ++ below := by
  induction first generalizing context results with
  | nil => exact ⟨[], context, results, rfl, ran, rfl⟩
  | cons computation others ih =>
    obtain ⟨value, between, values, begun, ended, rfl⟩ := sequence_cons_ok.mp ran
    obtain ⟨above, last, below, inner, later, rfl⟩ := ih ended
    exact ⟨value :: above, last, below, sequence_cons_ok.mpr ⟨value, between, above, begun, inner, rfl⟩, later, rfl⟩

/-- There are as many results as computations. -/
theorem sequence_length {computations : List (Render α)} {context after : Context} {results : List α}
    (ran : (sequence computations).runIn context = (.ok results, after)) : results.length = computations.length := by
  induction computations generalizing context results with
  | nil =>
    obtain ⟨rfl, -⟩ := runIn_pure_ok.mp ran
    rfl
  | cons first rest ih =>
    obtain ⟨value, between, values, -, ended, rfl⟩ := sequence_cons_ok.mp ran
    rw [List.length_cons, List.length_cons, ih ended]

end Adocify.AsciiDoc.Render
