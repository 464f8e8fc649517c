import Paygate.Proofs.Payment.Memo
import Paygate.Proofs.Pipeline.Precedence

/-!
# The memo that came with a destination

A request and its destination do not both bring a memo, and the one that is there is neither lost nor
replaced.

* `Memo.Chosen`, `Memo.resolve_chosen`: which memo is taken, and when none can be.
* `Pipeline.memo_kept`: so every transaction for a destination with a memo carries that memo.
-/

namespace Paygate

namespace Memo

variable {kind value : Field} {came : Option (Str × Str)} {destination : Destination}

/-- What becomes of the memo pair of a request and the memo that came with its destination. -/
structure Chosen (kind value : Field) (came : Option (Str × Str)) (result : Except Failure Memo) :
    Prop where
  /-- Half a pair is refused, whether or not a memo came. -/
  half : result = .error (.payment .missingMemoParameter) ↔ ¬ (kind = "" ↔ value = "")
  both : result = .error (.payment .cannotUseMemo) ↔ kind ≠ "" ∧ value ≠ "" ∧ came ≠ .none
  request : kind ≠ "" → value ≠ "" → came = .none → result = parse kind value
  destination : ∀ k v, kind = "" → value = "" → came = some (k, v) → result = parse k v
  nothing : result = .ok .none ↔ kind = "" ∧ value = "" ∧ came = .none

/-! ## Choosing -/

theorem resolve_of_half (h : ¬ (kind = "" ↔ value = "")) :
    resolve kind value destination = .error (.payment .missingMemoParameter) := by
  have hpair : checkPair kind value = .error .missingMemoParameter := by
    refine if_neg fun heq => h ?_
    rw [← Field.isEmpty_iff, ← Field.isEmpty_iff, heq]
  rw [resolve_eq, hpair]
  rfl

theorem checkPair_of_set (hkind : kind ≠ "") (hvalue : value ≠ "") : checkPair kind value = .ok () := by
  rw [checkPair, Field.isEmpty_eq_false_iff.mpr hkind, Field.isEmpty_eq_false_iff.mpr hvalue, if_pos rfl]

theorem resolve_of_both (hkind : kind ≠ "") (hvalue : value ≠ "") (hcame : destination.memo ≠ .none) :
    resolve kind value destination = .error (.payment .cannotUseMemo) := by
  have howner : checkOwner kind destination.memo = .error (.payment .cannotUseMemo) := by
    refine if_neg ?_
    rw [Field.isEmpty_eq_false_iff.mpr hkind]
    simpa using hcame
  rw [resolve_eq, checkPair_of_set hkind hvalue, howner]
  rfl

theorem resolve_of_request (hkind : kind ≠ "") (hvalue : value ≠ "") (hcame : destination.memo = .none) :
    resolve kind value destination = parse kind value := by
  have hpair : ofPair (kind, value) = parse kind value := by
    rw [ofPair, Field.isEmpty_eq_false_iff.mpr hkind, if_neg (by decide)]
  rw [resolve_eq, checkPair_of_set hkind hvalue, hcame]
  exact hpair

theorem resolve_of_destination {k v : Str} (hcame : destination.memo = some (k, v)) (hne : k ≠ "") :
    resolve "" "" destination = parse k v := by
  have hpair : ofPair (.text k, .text v) = parse k v :=
    if_neg (by simpa using hne)
  rw [resolve_eq, hcame]
  exact hpair

theorem resolve_of_nothing (hcame : destination.memo = .none) : resolve "" "" destination = .ok .none := by
  rw [resolve_eq, hcame]
  rfl

/-- The memo of a request is chosen like this, if the kind that came with the destination is not empty. -/
theorem resolve_chosen (kind value : Field) (hcame : ∀ k v, destination.memo = some (k, v) → k ≠ "") :
    Chosen kind value destination.memo (resolve kind value destination) := by
  by_cases hhalf : kind = "" ↔ value = ""
  · by_cases hkind : kind = ""
    · obtain rfl := hkind
      obtain rfl := hhalf.mp rfl
      cases hmemo : destination.memo with
      | none =>
        rw [resolve_of_nothing hmemo]
        constructor <;> simp
      | some pair =>
        obtain ⟨k, v⟩ := pair
        rw [resolve_of_destination hmemo (hcame k v hmemo)]
        constructor <;> simp [parse_ne_none, parse_ne_refused]
    · have hvalue : value ≠ "" := fun h => hkind (hhalf.mpr h)
      cases hmemo : destination.memo with
      | none =>
        rw [resolve_of_request hkind hvalue hmemo]
        constructor <;> simp [parse_ne_none, parse_ne_refused, hkind, hvalue]
      | some pair =>
        rw [resolve_of_both hkind hvalue (by simp [hmemo])]
        constructor <;> simp [hkind, hvalue]
  · rw [resolve_of_half hhalf]
    exact {
      half := by simp [hhalf]
      both := ⟨nofun, fun ⟨hkind, hvalue, _⟩ => absurd (iff_of_false hkind hvalue) hhalf⟩
      request := fun hkind hvalue _ => absurd (iff_of_false hkind hvalue) hhalf
      destination := fun _ _ hkind hvalue _ => absurd (iff_of_true hkind hvalue) hhalf
      nothing := ⟨nofun, fun ⟨hkind, hvalue, _⟩ => absurd (iff_of_true hkind hvalue) hhalf⟩ }

/-- If a memo came and the choice is a memo, the request has none and the memo that came is read. -/
theorem Chosen.parse_of_ok {result : Except Failure Memo} (h : Chosen kind value came result)
    {k v : Str} (hcame : came = some (k, v)) {memo : Memo} (hresult : result = .ok memo) :
    kind = "" ∧ value = "" ∧ parse k v = .ok memo := by
  have hhalf : kind = "" ↔ value = "" := by
    by_contra hhalf
    cases hresult.symm.trans (h.half.mpr hhalf)
  have hkind : kind = "" := by
    by_contra hkind
    have hboth := h.both.mpr ⟨hkind, fun hvalue => hkind (hhalf.mpr hvalue), by simp [hcame]⟩
    cases hresult.symm.trans hboth
  have hvalue := hhalf.mp hkind
  exact ⟨hkind, hvalue, (h.destination k v hkind hvalue hcame).symm.trans hresult⟩

end Memo

/-! ## Runs -/

namespace Pipeline

variable {ω : Type}

/-- A destination that was found has the memo of the record. -/
theorem memo_of_resolves {c : Collaborators ω} {address : Field} {w : ω} {record : FederationRecord}
    {destination : Destination} (answer : (c.resolve address w).value = .ok record)
    (h : Resolves c address w (.ok destination)) : destination.memo = record.memoFields? := by
  cases h with
  | found answer' _ whole =>
    obtain rfl := Except.ok.inj (answer.symm.trans answer')
    exact memo_of_make whole

theorem resolves_of_run {c : Collaborators ω} {address : Field} {w : ω} {destination : Destination}
    (h : ((resolveDestination c address).run { world := w }).1 = .ok destination) :
    Resolves c address w (.ok destination) := by
  obtain ⟨result, ends, resolved⟩ := resolveDestination_ends c address w
  obtain ⟨logs, hrun⟩ := ends { world := w } rfl
  rw [hrun] at h
  obtain rfl : result = .ok destination := h
  exact resolved

theorem memoFields?_eq_some_iff {record : FederationRecord} {kind value : Str} :
    record.memoFields? = some (kind, value) ↔ record.memoType = some kind ∧ record.memo = some value := by
  obtain ⟨account, memoType, memo⟩ := record
  cases memoType <;> cases memo <;> simp [FederationRecord.memoFields?]

theorem kind_ne_of_whole {record : FederationRecord} (whole : record.Whole) {kind value : Str}
    (h : record.memoFields? = some (kind, value)) : kind ≠ "" := by
  obtain ⟨htype, -⟩ := memoFields?_eq_some_iff.mp h
  obtain ⟨hnone, -⟩ | ⟨kind', value', hsome, -, hne, -⟩ := whole
  · rw [hnone] at htype
    cases htype
  · obtain rfl := Option.some.inj (hsome.symm.trans htype)
    exact hne

/-- The memo of a record is never lost, replaced or merged. Of the memo pair of a request and the memo of
the record that its destination was resolved to, half a pair is refused first, then both together, and the
one that is there is read; a pair of texts that is read is a memo or refused as none, but for a number that
is too long to be converted. So whatever transaction a run hands to the builder, it carries the memo of the
record if the record has one, and the request has none. -/
theorem memo_kept (c : Collaborators ω) (config : Config) (request : PaymentRequest) (w : ω)
    {record : FederationRecord} (answer : (c.resolve request.destination w).value = .ok record)
    (whole : record.Whole) :
    (∀ destination,
      ((resolveDestination c request.destination).run { world := w }).1 = .ok destination →
        ∀ kind value, Memo.Chosen kind value record.memoFields? (Memo.resolve kind value destination)) ∧
    (∀ kind value : Str, (kind = "id" → ¬ Numeral.Overlong value) →
      (∃ memo, Memo.parse kind value = .ok memo) ∨
        Memo.parse kind value = .error (.payment .invalidMemo)) ∧
    (∀ kind value, record.memoFields? = some (kind, value) → ∀ transaction seed,
      .build transaction seed ∈ ((execute c config request).run { world := w }).2.calls →
        request.memoType = "" ∧ request.memo = "" ∧ Memo.parse kind value = .ok transaction.memo) := by
  have hchosen : ∀ {destination : Destination}, destination.memo = record.memoFields? →
      ∀ kind value, Memo.Chosen kind value record.memoFields? (Memo.resolve kind value destination) := by
    intro destination hmemo kind value
    rw [← hmemo]
    exact Memo.resolve_chosen kind value fun k v hcame => kind_ne_of_whole whole (hmemo ▸ hcame)
  refine ⟨fun destination h => hchosen (memo_of_resolves answer (resolves_of_run h)),
    fun kind value => Memo.parse_cases, ?_⟩
  intro kind value hfields transaction seed hbuild
  obtain ⟨source, destination, w₁, calls₁, ⟨⟨-, resolved, -, remembered⟩, -, assembled⟩, -⟩ :=
    (execute_course c config request w).assembled_of_build hbuild
  obtain ⟨next, operation, -, -, rfl⟩ := Transaction.assemble_eq_ok assembled
  exact (hchosen (memo_of_resolves answer resolved) _ _).parse_of_ok hfields remembered

/-- The payment over two legs carries the memo that came with its destination. -/
theorem twoLegs_memo : TwoLegs.world.records.lookup (.whole "bob*example.org") =
      some (.record ⟨Sample.destination, some "id", some "42"⟩) ∧
    Memo.parse "id" "42" = .ok TwoLegs.transaction.memo := by
  have whole : FederationRecord.Whole ⟨Sample.destination, some "id", some "42"⟩ :=
    .inr ⟨"id", "42", rfl, rfl, by decide, by decide⟩
  have hbuild := (execute_course World.collaborators ⟨"network", 100⟩ (.ofForm TwoLegs.form)
    TwoLegs.world).build_mem_of_assembled TwoLegs.assembled
  obtain ⟨-, -, hmemo⟩ := memo_kept World.collaborators ⟨"network", 100⟩ (.ofForm TwoLegs.form)
    TwoLegs.world rfl whole
  exact ⟨rfl, (hmemo "id" "42" rfl _ _ hbuild).2.2⟩

end Pipeline

end Paygate
