import RustMist.Library.Program
import Mathlib.Algebra.Order.Ring.Nat
import Mathlib.Algebra.BigOperators.Group.List.Basic

/-! Programs whose operations are implemented by programs of a lower level. -/

namespace Effects

/-- The operations of one signature among those of another. -/
structure Embedding (T U : Signature) where
  op : T.Op → U.Op
  answer : ∀ own, U.Answer (op own) → T.Answer own

variable {S T U : Signature} {α β σ : Type}

namespace Program

/-- A program of the smaller signature is one of the larger. -/
def embed (embedding : Embedding T U) : Program T α → Program U α
  | .pure value => .pure value
  | .perform op next =>
      .perform (embedding.op op) fun answer => (next (embedding.answer op answer)).embed embedding

/-- An operation is implemented by a program that may stop instead of answering. -/
abbrev Implementation (S T : Signature) (σ : Type) :=
  σ → (op : S.Op) → Program T (Option (S.Answer op × σ))

/-- Each operation is replaced by its implementation, which hands its memory on. -/
def link (implement : Implementation S T σ) : Program S α → σ → Program T (Option α)
  | .pure value, _ => .pure (some value)
  | .perform op next, memory => do
      match ← implement memory op with
      | none => pure none
      | some (answer, memory) => (next answer).link implement memory

/-- A linked program goes on with the answer that the implementation returns. -/
def resume (implement : Implementation S T σ) {op : S.Op} (next : S.Answer op → Program S α) :
    Option (S.Answer op × σ) → Program T (Option α)
  | none => .pure none
  | some (answer, memory) => (next answer).link implement memory

theorem link_perform (implement : Implementation S T σ) (op : S.Op)
    (next : S.Answer op → Program S α) (memory : σ) :
    (Program.perform op next).link implement memory =
      implement memory op >>= resume implement next := by
  rw [link]
  rfl

section Weights

variable {weight : S.Op → Nat} {allowed : S.Op → Prop} {bound : Nat}

/-- Every operation is allowed, and their weights add up to no more than the bound. -/
def AtMost (weight : S.Op → Nat) (allowed : S.Op → Prop) : Program S α → Nat → Prop
  | .pure _, _ => True
  | .perform op next, bound =>
      allowed op ∧ ∃ left, bound = weight op + left ∧
        ∀ answer, (next answer).AtMost weight allowed left

@[simp] theorem atMost_pure (value : α) :
    (Program.pure value : Program S α).AtMost weight allowed bound := trivial

theorem atMost_ask_bind {op : S.Op} {continue' : S.Answer op → Program S α}
    (permitted : allowed op) (later : ∀ answer, (continue' answer).AtMost weight allowed bound) :
    (ask op >>= continue').AtMost weight allowed (weight op + bound) :=
  ⟨permitted, bound, rfl, later⟩

theorem AtMost.mono {program : Program S α} (within : program.AtMost weight allowed bound)
    {bound' : Nat} (below : bound ≤ bound') : program.AtMost weight allowed bound' := by
  induction program generalizing bound bound' with
  | pure value => trivial
  | perform op next ih =>
      obtain ⟨permitted, left, rfl, later⟩ := within
      exact ⟨permitted, bound' - weight op, by omega, fun answer => ih answer (later answer)
        (by omega)⟩

/-- The bounds of two parts add up. -/
theorem AtMost.bind {program : Program S α} {continue' : α → Program S β} {more : Nat}
    (first : program.AtMost weight allowed bound)
    (second : ∀ value, (continue' value).AtMost weight allowed more) :
    (program >>= continue').AtMost weight allowed (bound + more) := by
  induction program generalizing bound with
  | pure value => exact (second value).mono (Nat.le_add_left _ _)
  | perform op next ih =>
      obtain ⟨permitted, left, rfl, later⟩ := first
      exact ⟨permitted, left + more, Nat.add_assoc _ _ _, fun answer => ih answer (later answer)⟩

/-- What follows a part may add nothing to its bound. -/
theorem AtMost.bind_free {program : Program S α} {continue' : α → Program S β}
    (first : program.AtMost weight allowed bound)
    (second : ∀ value, (continue' value).AtMost weight allowed 0) :
    (program >>= continue').AtMost weight allowed bound := first.bind second

/-- A run weighs no more than its program may, and every operation of it is allowed. -/
theorem AtMost.run {program rest : Program S α} {history : History S}
    (within : program.AtMost weight allowed bound) (run : Run program history rest) :
    (history.map fun event => weight event.op).sum ≤ bound ∧
      ∀ event ∈ history, allowed event.op := by
  induction run generalizing bound with
  | start _ => simp
  | step op next answer _ ih =>
      obtain ⟨permitted, left, rfl, later⟩ := within
      obtain ⟨light, all⟩ := ih (later answer)
      refine ⟨?_, List.forall_mem_cons.mpr ⟨permitted, all⟩⟩
      rw [List.map_cons, List.sum_cons]
      exact Nat.add_le_add_left light _

theorem AtMost.ensures {program : Program S α} {past : History S}
    (within : program.AtMost weight allowed bound) :
    program.Ensures (fun _ op => allowed op) (fun _ _ => True) past := by
  induction program generalizing bound past with
  | pure value => trivial
  | perform op next ih =>
      obtain ⟨permitted, left, _, later⟩ := within
      exact ⟨permitted, fun answer => ih answer (later answer)⟩

end Weights

section Embeddings

variable {embedding : Embedding T U}

theorem AtMost.embed {weight : U.Op → Nat} {allowed : U.Op → Prop} {bound : Nat}
    {program : Program T α} (within : program.AtMost (fun op => weight (embedding.op op))
      (fun op => allowed (embedding.op op)) bound) :
    (program.embed embedding).AtMost weight allowed bound := by
  induction program generalizing bound with
  | pure value => trivial
  | perform op next ih =>
      obtain ⟨permitted, left, rfl, later⟩ := within
      exact ⟨permitted, left, rfl, fun answer => ih _ (later _)⟩

/-- What a program ensures of its own events it ensures along a related larger history. -/
theorem Ensures.embed (related : History U → History T → Prop)
    (extends' : ∀ past own op answer, related past own →
      related (past ++ [⟨embedding.op op, answer⟩]) (own ++ [⟨op, embedding.answer op answer⟩]))
    {guard : History T → T.Op → Prop} {goal : History T → α → Prop}
    {guard' : History U → U.Op → Prop}
    (implied : ∀ past own op, related past own → guard own op → guard' past (embedding.op op))
    {program : Program T α} {past : History U} {own : History T}
    (ensures : program.Ensures guard goal own) (start : related past own) :
    (program.embed embedding).Ensures guard'
      (fun past value => ∃ own, related past own ∧ goal own value) past := by
  induction program generalizing past own with
  | pure value => exact ⟨own, start, ensures⟩
  | perform op next ih =>
      exact ⟨implied past own op start ensures.1,
        fun answer => ih _ (ensures.2 _) (extends' past own op answer start)⟩

/-- A completed run is one of the larger signature when its answers can be given there. -/
theorem Completes.embed {program : Program T α} {own : History T} {value : α}
    (given : ∀ op, T.Answer op → U.Answer (embedding.op op))
    (returns : ∀ op answer, embedding.answer op (given op answer) = answer)
    (run : Completes program own value) :
    Completes (program.embed embedding)
      (own.map fun event => ⟨embedding.op event.op, given event.op event.answer⟩) value := by
  change Run program own (.pure value) at run
  generalize ended : Program.pure value = rest at run
  induction run with
  | start program =>
      subst ended
      exact .start _
  | step op next answer later ih =>
      refine .step _ _ _ ?_
      rw [returns]
      exact ih ended

end Embeddings

section Links

variable {implement : Implementation S T σ}

/-- The bound of a linked program is that of the program times the cost of a unit of weight. -/
theorem AtMost.link {weight : S.Op → Nat} {allowed : S.Op → Prop} {weight' : T.Op → Nat}
    {allowed' : T.Op → Prop} {bound cost : Nat} {program : Program S α}
    (within : program.AtMost weight allowed bound)
    (implements : ∀ memory op, allowed op →
      (implement memory op).AtMost weight' allowed' (weight op * cost)) (memory : σ) :
    (program.link implement memory).AtMost weight' allowed' (bound * cost) := by
  induction program generalizing bound memory with
  | pure value => trivial
  | perform op next ih =>
      obtain ⟨permitted, left, rfl, later⟩ := within
      rw [Nat.add_mul, link_perform]
      refine (implements memory op permitted).bind fun result => ?_
      cases result with
      | none => trivial
      | some pair => exact ih pair.1 (later pair.1) pair.2

/-- A linked program ensures what its implementations ensure along a related history of the
program. -/
theorem Ensures.link (related : History S → History T → σ → Prop)
    {guard : History S → S.Op → Prop} {goal : History S → α → Prop}
    {guard' : History T → T.Op → Prop}
    (implements : ∀ past past' memory op, related past past' memory → guard past op →
      (implement memory op).Ensures guard' (fun history result => ∀ answer memory,
        result = some (answer, memory) → related (past ++ [⟨op, answer⟩]) history memory) past')
    {program : Program S α} {past : History S} {past' : History T} {memory : σ}
    (ensures : program.Ensures guard goal past) (start : related past past' memory) :
    (program.link implement memory).Ensures guard' (fun history result => ∀ value,
      result = some value → ∃ past memory, related past history memory ∧ goal past value) past' := by
  induction program generalizing past past' memory with
  | pure value =>
      intro value' same
      obtain rfl := Option.some.inj same
      exact ⟨past, memory, start, ensures⟩
  | perform op next ih =>
      rw [link_perform]
      refine Ensures.bind (implements past past' memory op start ensures.1)
        fun history result reached => ?_
      cases result with
      | none => exact nofun
      | some pair => exact ih pair.1 (ensures.2 pair.1) (reached pair.1 pair.2 rfl)

/-- What every implementation keeps, however it ends, a linked program keeps. -/
theorem Ensures.link_keeps {keeps : History T → Prop} {guard : History T → T.Op → Prop}
    (implements : ∀ past memory op, keeps past →
      (implement memory op).Ensures guard (fun history _ => keeps history) past)
    {program : Program S α} {past : History T} {memory : σ} (start : keeps past) :
    (program.link implement memory).Ensures guard (fun history _ => keeps history) past := by
  induction program generalizing past memory with
  | pure value => exact start
  | perform op next ih =>
      rw [link_perform]
      refine Ensures.bind (implements past memory op start) fun history result kept => ?_
      cases result with
      | none => exact kept
      | some pair => exact ih pair.1 kept

/-- A completed implementation takes a linked program to what follows its operation. -/
theorem Run.link {op : S.Op} {next : S.Answer op → Program S α} {answer : S.Answer op}
    {memory memory' : σ} {early late : History T} {rest : Program T (Option α)}
    (implemented : Completes (implement memory op) early (some (answer, memory')))
    (later : Run ((next answer).link implement memory') late rest) :
    Run ((Program.perform op next).link implement memory) (early ++ late) rest := by
  rw [link_perform]
  exact Run.bind implemented later

/-- One operation after another is answered by its implementation. -/
inductive Linked (implement : Implementation S T σ) : σ → History S → History T → σ → Prop where
  | nil (memory : σ) : Linked implement memory [] [] memory
  | cons {op : S.Op} {answer : S.Answer op} {first second third : σ} {early late : History T}
      {history : History S} (implemented : Completes (implement first op) early
        (some (answer, second)))
      (later : Linked implement second history late third) :
      Linked implement first (⟨op, answer⟩ :: history) (early ++ late) third

namespace Linked

variable {first second third : σ}

theorem single {op : S.Op} {answer : S.Answer op} {history : History T}
    (implemented : Completes (implement first op) history (some (answer, second))) :
    Linked implement first [⟨op, answer⟩] history second := by
  have linked : Linked implement first [⟨op, answer⟩] (history ++ []) second :=
    .cons implemented (.nil second)
  rwa [List.append_nil] at linked

theorem append {early late : History S} {early' late' : History T}
    (before : Linked implement first early early' second)
    (after : Linked implement second late late' third) :
    Linked implement first (early ++ late) (early' ++ late') third := by
  induction before with
  | nil => exact after
  | cons implemented _ ih =>
      rw [List.append_assoc]
      exact .cons implemented (ih after)

/-- A linked program does what its implementations do along a run of the program. -/
theorem run {program rest : Program S α} {history : History S} {history' : History T}
    (linked : Linked implement first history history' second) (run : Run program history rest) :
    Run (program.link implement first) history' (rest.link implement second) := by
  induction linked generalizing program with
  | nil memory =>
      cases run
      exact .start _
  | cons implemented _ ih =>
      cases run with
      | step op next answer later => exact Run.link implemented (ih later)

end Linked

/-- A linked program that returns has run its source to the end. -/
theorem Completes.unlink {program : Program S α} {memory : σ} {history : History T} {value : α}
    (run : Completes (program.link implement memory) history (some value)) :
    ∃ own memory', Completes program own value ∧ Linked implement memory own history memory' := by
  induction program generalizing memory history with
  | pure value' =>
      obtain ⟨rfl, same⟩ := (completes_pure_iff _ _ _).mp run
      rw [Option.some.inj same]
      exact ⟨[], memory, .start _, .nil memory⟩
  | perform op next ih =>
      rw [link_perform] at run
      obtain ⟨result, first, second, rfl, implemented, later⟩ := (completes_bind_iff _ _ _ _).mp run
      cases result with
      | none => cases ((completes_pure_iff _ _ _).mp later).2
      | some pair =>
          obtain ⟨own, memory', done, linked⟩ := ih pair.1 later
          exact ⟨_, memory', .step op next pair.1 done, .cons implemented linked⟩

/-- What a linked program performs is performed by the implementation of an operation that its
source has come to. -/
theorem Run.unlink {program : Program S α} {memory : σ} {history : History T} {op : T.Op}
    {next : T.Answer op → Program T (Option α)}
    (run : Run (program.link implement memory) history (.perform op next)) :
    ∃ own early late memory' upper later inner, history = early ++ late ∧
      Run program own (.perform upper later) ∧ Linked implement memory own early memory' ∧
      Run (implement memory' upper) late (.perform op inner) ∧
      ∀ answer, next answer = inner answer >>= resume implement later := by
  induction program generalizing memory history with
  | pure value => cases ((run_pure_iff _ _ _).mp run).2
  | perform upper later ih =>
      rw [link_perform] at run
      have answered {answer : S.Answer upper} {memory' : σ} {first second : History T}
          (implemented : Completes (implement memory upper) first (some (answer, memory')))
          (rest : Run ((later answer).link implement memory') second (.perform op next)) :
          ∃ own early late memory' upper' later' inner, first ++ second = early ++ late ∧
            Run (.perform upper later) own (.perform upper' later') ∧
            Linked implement memory own early memory' ∧
            Run (implement memory' upper') late (.perform op inner) ∧
            ∀ answer, next answer = inner answer >>= resume implement later' := by
        obtain ⟨own, early, late, memory'', upper', later', inner, rfl, reached, linked, under, goes⟩ :=
          ih answer rest
        exact ⟨_, first ++ early, late, memory'', upper', later', inner,
          (List.append_assoc _ _ _).symm, .step upper later answer reached,
          .cons implemented linked, under, goes⟩
      rcases (run_bind_iff _ _ _ _).mp run with
        ⟨inner, under, same⟩ | ⟨result, first, second, rfl, implemented, rest⟩
      · cases inner with
        | perform op' inner =>
            obtain ⟨rfl, goes⟩ := Program.perform.inj same
            exact ⟨[], [], history, memory, upper, later, inner, rfl, .start _, .nil memory, under,
              congrFun (eq_of_heq goes)⟩
        | pure result =>
            cases result with
            | none => cases same
            | some pair =>
                have rest : Run ((later pair.1).link implement pair.2) [] (.perform op next) :=
                  same ▸ .start _
                simpa using answered under rest
      · cases result with
        | none => cases ((run_pure_iff _ _ _).mp rest).2
        | some pair => exact answered implemented rest

end Links

end Program

end Effects
