import RemoteConsole.Proofs.Request.Seniority

/-!
# Nobody who waits is overlooked

The queue of ids is kept beside the requests, and is not tidied when a request ends: an id may stay
in it after its request, and may stand in it more than once. What the queue must not lose is an id
whose request is pending. It never does, since the registration of every pending request is among
the mentions of its `Lined` queue. So the search for the oldest request, which drops ids from the
front until one is pending (`dropStale_spec`), drops no request along with them, and finds one
whenever there is one (`waiting_found`).
-/

namespace RemoteConsole

namespace RequestTable

variable {past : List Step} {t : RequestTable} {line : List Mention} {r : Request} {id : Int32}

/-- The search for the oldest request leaves the requests alone, and drops ids from the front of the
queue that are not pending, up to the first one that is. -/
theorem dropStale_spec (t : RequestTable) :
    t.dropStale.pending = t.pending ∧
      (∃ stale, t.order = stale ++ t.dropStale.order ∧ ∀ id ∈ stale, t.contains id = false) ∧
      ∀ id, t.dropStale.order.head? = some id → t.contains id = true := by
  refine ⟨rfl, ⟨t.order.takeWhile fun id => !t.contains id, ?_, fun id hid => ?_⟩, fun id hid => ?_⟩
  · exact (List.takeWhile_append_dropWhile ..).symm
  · simpa using List.mem_takeWhile_imp hid
  · have hhead := List.head?_dropWhile_not (fun id => !t.contains id) t.order
    rw [show t.order.dropWhile (fun id => !t.contains id) = t.dropStale.order from rfl, hid] at hhead
    simpa using hhead

/-- Where nobody waits, a body is meant for nobody. -/
theorem target?_of_pending_eq_nil (h : t.pending = []) (id : Int32) (strict : Bool) :
    t.target? id strict = none := by
  refine Option.bind_eq_none_iff.mpr fun target _ => find?_eq_none_iff.mpr fun r hr => ?_
  rw [h] at hr
  cases hr

namespace Lined

/-- The id of a pending request is in the queue. -/
theorem id_mem_order (h : Lined past t line) (hr : r ∈ t.pending) : r.id ∈ t.order := by
  rw [← h.ids]
  exact List.mem_map_of_mem (f := Mention.id) (h.own r hr)

/-- Where somebody waits and ids need not match, a body with the id 0 is meant for somebody. -/
theorem exists_target? (h : Lined past t line) (nodup : (t.pending.map Request.id).Nodup)
    (waiting : t.pending ≠ []) : ∃ r ∈ t.pending, t.target? unmatchedId false = some r := by
  cases hzero : t.find? unmatchedId with
  | some r => exact ⟨r, mem_of_find? hzero, target?_of_find? hzero false⟩
  | none =>
    obtain ⟨r, hr, htarget, -⟩ :=
      h.target?_unmatched nodup (contains_eq_false_iff.mpr hzero) waiting
    exact ⟨r, hr, htarget⟩

end Lined

/-- After every history, whatever ids were registered again while they were pending and whatever
mentions were left behind: the id of each pending request is in the queue. So where ids need not
match, a body with the id 0 that may be part of a response goes to a pending request if there is
one, and to nobody only if no request is pending. And all that the search for the oldest request
drops from the queue are ids that are not pending. -/
theorem waiting_found (ops : List Op) :
    let t := ({} : RequestTable).after ops
    (∀ r ∈ t.pending, r.id ∈ t.order) ∧
      (∀ body terminator, terminator.discards body = false →
        ((t.deliver unmatchedId body false terminator).1 = .unmatched ↔ t.pending = []) ∧
          (t.pending ≠ [] → ∃ r ∈ t.pending,
            (t.deliver unmatchedId body false terminator).1.recipient? = some r.id)) ∧
      t.dropStale.pending = t.pending ∧
        (∃ stale, t.order = stale ++ t.dropStale.order ∧ ∀ id ∈ stale, t.contains id = false) ∧
        ∀ id, t.dropStale.order.head? = some id → t.contains id = true := by
  intro t
  have hlined : Lined _ t _ := .of_steps ops
  have hledger : Ledger _ t := .of_steps ops
  refine ⟨fun r hr => hlined.id_mem_order hr, fun body terminator kept => ?_, t.dropStale_spec⟩
  have hserved (waiting : t.pending ≠ []) : ∃ r ∈ t.pending,
      (t.deliver unmatchedId body false terminator).1.recipient? = some r.id := by
    obtain ⟨r, hr, htarget⟩ := hlined.exists_target? hledger.nodup waiting
    exact ⟨r, hr, recipient?_deliver htarget kept⟩
  refine ⟨⟨fun hunmatched => ?_, fun hnobody => ?_⟩, hserved⟩
  · by_contra hwaiting
    obtain ⟨r, -, hrecipient⟩ := hserved hwaiting
    rw [hunmatched] at hrecipient
    cases hrecipient
  · rw [deliver_eq, kept, target?_of_pending_eq_nil hnobody]
    rfl

/-- Ids that are registered again, taken back and completed, so that the queue holds a stale id in
front of the last pending one; and the same history with nobody left. -/
theorem waiting_found_behind_stale :
    let ops : List Op := [.register 1 false, .register 1 true, .register 2 false, .register 3 false,
      .remove 2, .deliver 0 "" false .emptyEcho]
    let t := ({} : RequestTable).after ops
    let t' := ({} : RequestTable).after (ops ++ [.deliver 3 "a" true .emptyEcho])
    (t.pending = [{ slot := 3, id := 3, multi := false }] ∧ t.order = [1, 3] ∧ 3 ∈ t.order) ∧
      (∃ r ∈ t.pending,
        (t.deliver unmatchedId "x" false .emptyEcho).1.recipient? = some r.id) ∧
      t'.order = [1] ∧ (t'.deliver unmatchedId "x" false .emptyEcho).1 = .unmatched := by
  intro ops t t'
  obtain ⟨queued, found, -⟩ := waiting_found ops
  obtain ⟨-, unmatched, -⟩ := waiting_found (ops ++ [.deliver 3 "a" true .emptyEcho])
  have hkept : Terminator.emptyEcho.discards "x" = false := by decide
  exact ⟨⟨by decide, by decide, queued { slot := 3, id := 3, multi := false } (by decide)⟩,
    (found "x" .emptyEcho hkept).2 (by decide), by decide,
    (unmatched "x" .emptyEcho hkept).1.mpr (by decide)⟩

end RequestTable

end RemoteConsole
