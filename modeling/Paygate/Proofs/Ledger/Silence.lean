import Paygate.Pipeline.Execute
import Paygate.Proofs.Pipeline.Silence

/-!
# What the builder says

The errors of the builder quote amounts, asset codes and sequence numbers, so they mention a seed only
if a value of the operation does. The seed that signs is in none of them.

* `Builder.Quiet`: no error of a part mentions the seed.
* `Pipeline.ledgerBuilder_keeps`: so the builder is discreet.
-/

namespace Paygate

namespace Builder

variable {seed : String} {α β : Type}

/-- No error that the part comes to mentions the seed. -/
def Quiet (seed : String) (result : Result α) : Prop :=
  ∀ e, result = .error (.error e) → Silent seed e.message

theorem Quiet.ok (a : α) : Quiet seed (.ok a) := nofun

theorem Quiet.fault (f : Fault) : Quiet seed (.error (.fault f) : Result α) := nofun

theorem Quiet.error {e : BuilderError} (h : Silent seed e.message) :
    Quiet seed (.error (.error e) : Result α) := by
  rintro _ ⟨⟩
  exact h

theorem Quiet.reject (hseed : IsSeed seed) : Quiet seed (reject : Result α) :=
  .error (hseed.silent_of_length_lt (by decide))

theorem Quiet.bind {x : Result α} {f : α → Result β} (hx : Quiet seed x) (hf : ∀ a, Quiet seed (f a)) :
    Quiet seed (x >>= f) := by
  intro e h
  rcases bind_eq_error.mp h with h | ⟨a, -, h⟩
  · exact hx e h
  · exact hf a e h

theorem Quiet.mapM {f : α → Result β} {xs : List α} (h : ∀ x ∈ xs, Quiet seed (f x)) :
    Quiet seed (xs.mapM f) := by
  intro e he
  obtain ⟨x, hx, he⟩ := mapM_error he
  exact h x hx e he

section

variable (hseed : IsSeed seed)

include hseed

theorem amount_quiet {value : Field} (h : value.Silent seed) : Quiet seed (amount value) := by
  match value with
  | .upload => exact .reject hseed
  | .text (.broken s) => exact .error ((hseed.silent_append (by decide)).mpr (hseed.silent_quoted h))
  | .text (.whole s) =>
    have hquoted := hseed.silent_quoted h
    unfold amount
    dsimp only
    split
    · exact .ok _
    · exact .error ((hseed.silent_append (by decide)).mpr hquoted)
    · exact .error ((hseed.silent_append (by decide)).mpr hquoted)

theorem assetCode_quiet {value : Field} (h : value.Silent seed) : Quiet seed (assetCode value) := by
  match value with
  | .upload => exact .reject hseed
  | .text (.broken s) => exact .error ((hseed.silent_append (by decide)).mpr (hseed.silent_quoted h))
  | .text (.whole s) =>
    unfold assetCode
    dsimp only
    split
    · exact .ok _
    · exact .error ((hseed.silent_append (by decide)).mpr (hseed.silent_quoted h))

theorem accountKey_quiet (text : String) : Quiet seed (accountKey text) := by
  unfold accountKey
  split
  · exact .ok _
  · exact .reject hseed

theorem issuer_quiet (value : Field) : Quiet seed (issuer value) := by
  match value with
  | .upload => exact .fault _
  | .text (.broken s) => exact .reject hseed
  | .text (.whole s) => exact accountKey_quiet hseed s

theorem asset_quiet {value : Asset} (h : value.pair.1.Silent seed) : Quiet seed (asset value) := by
  cases value with
  | native => exact .ok _
  | issued a =>
    exact (assetCode_quiet hseed h).bind fun _ => (issuer_quiet hseed _).bind fun _ => .ok _

theorem account_quiet (text : String) : Quiet seed (account text) := by
  unfold account
  split
  · exact .ok _
  · split
    · exact .ok _
    · exact .reject hseed

theorem path_quiet (assets : List Ledger.Asset) : Quiet seed (path assets) := by
  unfold path
  split
  · exact .ok _
  · exact .reject hseed

theorem operation_quiet {value : Operation} (hvetted : value.Vetted)
    (h : ∀ field ∈ value.values, field.Silent seed) : Quiet seed (operation value) := by
  cases hvetted with
  | createAccount =>
    refine (amount_quiet hseed (h _ (by simp [Operation.values]))).bind fun _ => ?_
    exact (accountKey_quiet hseed _).bind fun _ => .ok _
  | payment =>
    refine (asset_quiet hseed (h _ (by simp [Operation.values]))).bind fun _ => ?_
    refine (amount_quiet hseed (h _ (by simp [Operation.values]))).bind fun _ => ?_
    exact (account_quiet hseed _).bind fun _ => .ok _
  | @pathPayment destination sendAsset destinationAsset sendMax destinationAmount legs =>
    have hlegs : ∀ leg ∈ legs, leg.pair.1.Silent seed := by
      intro leg hleg
      refine h _ (List.mem_append_right _ (List.mem_flatMap.mpr ⟨leg.pair, ?_, by simp⟩))
      exact List.mem_map_of_mem hleg
    refine (asset_quiet hseed (h _ (by simp [Operation.values]))).bind fun _ => ?_
    refine (amount_quiet hseed (h _ (by simp [Operation.values]))).bind fun _ => ?_
    refine (asset_quiet hseed (h _ (by simp [Operation.values]))).bind fun _ => ?_
    refine (amount_quiet hseed (h _ (by simp [Operation.values]))).bind fun _ => ?_
    refine (Quiet.mapM fun leg hleg => asset_quiet hseed (hlegs leg hleg)).bind fun _ => ?_
    refine (account_quiet hseed _).bind fun _ => ?_
    exact (path_quiet hseed _).bind fun _ => .ok _

theorem memo_quiet (value : Memo) : Quiet seed (memo value) := by
  have htext : ∀ s, Quiet seed (memoText s) := by
    intro s
    unfold memoText
    split
    · exact .reject hseed
    · split
      · exact .ok _
      · exact .reject hseed
  cases value with
  | text field =>
    cases field with
    | upload => exact .reject hseed
    | text s => exact (htext s).bind fun _ => .ok _
  | _ => exact .ok _

theorem signer_quiet (text : String) : Quiet seed (Builder.seed text) := by
  unfold Builder.seed
  split
  · exact .ok _
  · exact .reject hseed

omit hseed in
theorem fee_quiet (value : Int) : Quiet seed (fee value) := by
  unfold fee
  split
  · exact .ok _
  · exact .fault _

theorem sequence_silent (sequence : Int) : Silent seed (BuilderError.sequenceTooLarge sequence).message := by
  have hspace : "Sequence " = "Sequence" ++ " " := by decide
  have htext : Str.whole (BuilderError.sequenceTooLarge sequence).message =
      .whole "Sequence" ++ (.whole " " ++ .whole (toString sequence)) ++ .whole " exceeds int64" := by
    show Str.whole ("Sequence " ++ toString sequence ++ " exceeds int64") = _
    rw [hspace]
    simp only [Str.whole_append, String.append_assoc]
  have hseparates : IsSeed.separates (.whole " ") = true := by decide
  have hend : IsSeed.separates (.whole " exceeds int64") = true := by decide
  have hdigits : Silent seed (.whole " " ++ .whole (toString sequence)) :=
    (hseed.silent_str_append (by decide)).mpr
      (hseed.silent_of_not_mem (Text.not_mem_toString_int sequence))
  have hfront : Silent seed (.whole "Sequence" ++ (.whole " " ++ .whole (toString sequence))) :=
    hseed.silent_behind (IsSeed.separates_append hseparates _)
      (hseed.silent_of_length_lt (by decide)) hdigits
  rw [htext]
  exact hseed.silent_behind hend hfront (hseed.silent_of_length_lt (by decide))

theorem envelope_quiet {transaction : Transaction} {signer : String}
    (hvetted : transaction.operation.Vetted)
    (h : ∀ field ∈ transaction.operation.values, field.Silent seed) :
    Quiet seed (envelope transaction signer) := by
  have hrest : Quiet seed (do
      let operation ← operation transaction.operation
      let memo ← memo transaction.memo
      let source ← account transaction.source
      let seed ← Builder.seed signer
      let fee ← fee transaction.baseFee
      pure ((⟨source, fee, Int64.ofInt transaction.sequence, memo, operation⟩, seed) :
        Ledger.Transaction × Bytes32)) :=
    (operation_quiet hseed hvetted h).bind fun _ => (memo_quiet hseed _).bind fun _ =>
      (account_quiet hseed _).bind fun _ => (signer_quiet hseed _).bind fun _ =>
        (fee_quiet _).bind fun _ => .ok _
  have hlower : Quiet seed (lower transaction signer) := by
    unfold lower
    split
    · exact .error (sequence_silent hseed _)
    · exact hrest
  exact hlower.bind fun _ => .ok _

end

end Builder

namespace Pipeline

variable {ω : Type} {seed : String} {I : ω → Prop}

/-- The builder is discreet: its errors quote values of the operation only. -/
theorem ledgerBuilder_keeps (hseed : IsSeed seed) {transaction : Transaction} {signer : String} {w : ω}
    (hw : I w) (hvetted : transaction.operation.Vetted)
    (h : ∀ field ∈ transaction.operation.values, field.Silent seed) :
    Run.Keeps I seed (SilentBuild seed) (ledgerBuilder transaction signer w) := by
  have hquiet : Builder.Quiet seed (Builder.envelope transaction signer) :=
    Builder.envelope_quiet hseed hvetted h
  unfold ledgerBuilder
  split
  · exact ⟨hw, List.forall_mem_nil _, trivial⟩
  · rename_i hrejected
    refine ⟨hw, List.forall_mem_singleton.mpr (Log.Record.silent_iff.mpr ⟨?_, List.forall_mem_nil _⟩),
      hquiet _ hrejected⟩
    exact hseed.silent_of_length_lt (by decide)
  · rename_i e _ herror
    refine ⟨hw, List.forall_mem_nil _, ?_⟩
    cases e with
    | error e => exact hquiet e herror
    | fault f => trivial

end Pipeline

end Paygate
