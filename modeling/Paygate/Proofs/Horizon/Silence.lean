import Paygate.Horizon.Client
import Paygate.Proofs.Federation.Silence

/-!
# What the client of the ledger says

Its errors and records show the address of the ledger, account keys, and the text that came back with a
status that is no success.

* `Horizon.Client.load_keeps`, `Horizon.Client.submit_keeps`: the client is discreet as long as the servers
  are silent.
-/

namespace Paygate

namespace Horizon.Client

open Http (Network)
open Pipeline (SilentAnswer)
open StrKey (AccountKey)

variable {seed : String} {network : Network} {client : Client}

section

variable (hseed : IsSeed seed)

include hseed

theorem failure_silent {α : Type} {url : String} (hurl : Silent seed url) {e : Http.Error}
    (he : ∀ timedOut reason, e = .failed timedOut reason → Silent seed reason) :
    SilentAnswer seed (.error (failure url e) : Except LedgerFailure α) := by
  unfold failure
  split
  · trivial
  · exact (hseed.silent_append (by decide)).mpr hurl
  · rename_i reason
    have hfront : Silent seed ("Horizon request failed: " ++ url : String) :=
      (hseed.silent_append (by decide)).mpr hurl
    show Silent seed ("Horizon request failed: " ++ url ++ ": " ++ reason : String)
    rw [String.append_assoc, ← Str.whole_append]
    exact hseed.silent_between (by decide) (by decide) hfront (he _ _ rfl)

/-- A response that is no success shows its status and the start of its text. -/
theorem readObject_silent {response : Http.Response}
    (htext : ∀ text, response.text = .ok text → Silent seed text) :
    SilentAnswer seed (readObject response).1 ∧
      ∀ record ∈ (readObject response).2, record.Silent seed := by
  have hshort : ∀ text : String, text.toList.length < 56 → Silent seed text :=
    fun _ htext => hseed.silent_of_length_lt htext
  unfold readObject
  split
  · split
    · exact ⟨trivial, List.forall_mem_nil _⟩
    · exact ⟨hshort "Horizon returned non-JSON body" (by decide), List.forall_mem_nil _⟩
    · exact ⟨trivial, List.forall_mem_nil _⟩
    · exact ⟨hshort "Horizon returned non-object JSON" (by decide), List.forall_mem_nil _⟩
  · split
    · exact ⟨trivial, List.forall_mem_nil _⟩
    · rename_i text hread
      have hsummary : 'S' ∉ ("Horizon returned " ++ toString response.status).toList := by
        rw [String.toList_append, List.mem_append, not_or]
        exact ⟨by decide, Text.not_mem_toString_nat _⟩
      have hstart : Silent seed (.ofPoints (text.points.take shownText)) := by
        intro hholds
        rw [Str.toList_readable, Str.points_ofPoints] at hholds
        refine htext text hread (hholds.trans ?_)
        rw [Str.toList_readable]
        exact ((List.take_prefix _ _).map Point.readable).isInfix
      have hlog : 'S' ∉
          (Str.whole ("Horizon returned " ++ toString response.status ++ ": ")).readable.toList := by
        rw [Str.readable_whole, String.toList_append, List.mem_append, not_or]
        exact ⟨hsummary, by decide⟩
      refine ⟨hseed.silent_of_not_mem hsummary, List.forall_mem_singleton.mpr ?_⟩
      exact Log.Record.silent_iff.mpr ⟨(hseed.silent_str_append hlog).mpr hstart, List.forall_mem_nil _⟩

/-- A message about an account shows its key. -/
theorem account_silent {id rest : String} (key : AccountKey id) (hfirst : IsSeed.separates rest = true)
    (hrest : rest.toList.length < 56) : Silent seed ("Account " ++ id ++ rest : String) := by
  have hfront : Silent seed ("Account " ++ id : String) :=
    (hseed.silent_append (by decide)).mpr (hseed.silent_accountKey key)
  rw [← Str.whole_append]
  exact hseed.silent_behind hfirst hfront (hseed.silent_of_length_lt hrest)

variable (hbase : Silent seed client.base)

include hbase

theorem load_keeps {id : String} (key : AccountKey id) (h : network.Silent seed) :
    Run.Keeps (Network.Silent seed) seed (SilentAnswer seed) (client.load id network) := by
  have hurl : Silent seed (client.address (accountPath id)) := by
    rw [address, accountPath, ← Str.whole_append]
    exact hseed.silent_between (by decide) (by decide) hbase (hseed.silent_accountKey key)
  obtain ⟨hresult, hafter⟩ := Http.send_silent hseed h .get (client.address (accountPath id)) [] []
  unfold load request
  dsimp only
  rcases hsent : network.send .get (client.address (accountPath id)) [] [] with ⟨e | response, after⟩
  · rw [hsent] at hresult hafter
    refine ⟨hafter, List.forall_mem_nil _, failure_silent hseed hurl ?_⟩
    rintro timedOut reason rfl
    exact hresult.reason rfl
  · rw [hsent] at hresult hafter
    dsimp only
    split
    · exact ⟨hafter, List.forall_mem_nil _, account_silent hseed key (by decide) (by decide)⟩
    · obtain ⟨hbody, hlogs⟩ := readObject_silent hseed fun text htext => hresult.text rfl htext
      refine ⟨hafter, hlogs, ?_⟩
      dsimp only
      cases hread : (readObject response).1 with
      | error e =>
        rw [hread] at hbody
        cases e with
        | error e => exact hbody
        | fault f => trivial
      | ok body =>
        show SilentAnswer seed ((accountOf id response.status body).mapError .error)
        unfold accountOf
        split
        · trivial
        · exact account_silent hseed key (by decide) (by decide)

theorem submit_keeps {envelope : String} (h : network.Silent seed) :
    Run.Keeps (Network.Silent seed) seed (SilentAnswer seed) (client.submit envelope network) := by
  have hurl : Silent seed (client.address "/transactions") := by
    rw [address, ← Str.whole_append]
    exact hseed.silent_behind (by decide) hbase (hseed.silent_of_length_lt (by decide))
  obtain ⟨hresult, hafter⟩ :=
    Http.send_silent hseed h .post (client.address "/transactions") [] [("tx", envelope)]
  unfold submit request
  dsimp only
  rcases hsent : network.send .post (client.address "/transactions") [] [("tx", envelope)] with
    ⟨e | response, after⟩
  · rw [hsent] at hresult hafter
    refine ⟨hafter, List.forall_mem_nil _, failure_silent hseed hurl ?_⟩
    rintro timedOut reason rfl
    exact hresult.reason rfl
  · rw [hsent] at hresult hafter
    obtain ⟨hbody, hlogs⟩ := readObject_silent hseed fun text htext => hresult.text rfl htext
    exact ⟨hafter, hlogs, hbody⟩

end

end Horizon.Client

end Paygate
