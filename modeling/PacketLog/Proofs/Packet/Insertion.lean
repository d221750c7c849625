import Mathlib.Data.List.Induction
import Mathlib.Data.List.Nodup
import PacketLog.Packet.Size
import PacketLog.Proofs.List.Last
import PacketLog.Proofs.Packet.Labels

namespace PacketLog.Labels

/-- Whether a key is refused: an empty one, or one with a character in it that ends keys or lines. -/
def Refused (key : String) : Prop :=
  key = "" ∨ '=' ∈ key.toList ∨ '\r' ∈ key.toList ∨ '\n' ∈ key.toList

instance : DecidablePred Refused := fun key =>
  inferInstanceAs (Decidable
    (key = "" ∨ '=' ∈ key.toList ∨ '\r' ∈ key.toList ∨ '\n' ∈ key.toList))

theorem isKey_iff_not_refused {key : String} : isKey key = true ↔ ¬ Refused key := by
  rw [isKey_iff, Refused, not_or, not_or, not_or, Ne, String.toList_eq_nil_iff]
  refine and_congr_right fun _ => ?_
  constructor
  · intro h
    exact ⟨fun he => (h _ he).1 rfl, fun hr => (h _ hr).2.1 rfl, fun hn => (h _ hn).2.2 rfl⟩
  · rintro ⟨he, hr, hn⟩ c hc
    refine ⟨?_, ?_, ?_⟩ <;> rintro rfl <;> contradiction

theorem set_eq (labels : Labels) (key value : String) :
    labels.set key value =
      if Refused key then .error (.badLabelKey key) else .ok ⟨setPair key value labels.pairs⟩ := by
  rw [set]
  by_cases h : Refused key
  · rw [if_pos h, if_neg (mt isKey_iff_not_refused.1 (not_not_intro h))]
  · rw [if_neg h, if_pos (isKey_iff_not_refused.2 h)]

theorem offer_eq (labels : Labels) (key value : String) :
    labels.offer key value =
      if Refused key then labels else ⟨setPair key value labels.pairs⟩ := by
  rw [offer, set_eq]
  by_cases h : Refused key
  · rw [if_pos h, if_pos h]
  · rw [if_neg h, if_neg h]

variable {key : String} {pairs : List (String × String)}

theorem setPair_of_not_mem (h : key ∉ pairs.map Prod.fst) (value : String) :
    setPair key value pairs = pairs ++ [(key, value)] := by
  induction pairs with
  | nil => rfl
  | cons pair pairs ih =>
    obtain ⟨hpair, hpairs⟩ := not_or.1 (mt List.mem_cons.2 h)
    rw [setPair, if_neg (Ne.symm hpair), ih hpairs, List.cons_append]

theorem setPair_of_mem (hn : (pairs.map Prod.fst).Nodup) (h : key ∈ pairs.map Prod.fst)
    (value : String) :
    setPair key value pairs =
      pairs.map fun pair => if pair.1 = key then (key, value) else pair := by
  induction pairs with
  | nil => cases h
  | cons pair pairs ih =>
    obtain ⟨hpair, hn⟩ := List.nodup_cons.1 hn
    rw [setPair, List.map_cons]
    by_cases hk : pair.1 = key
    · -- The key does not come again behind its first place.
      have hrest : pairs.map (fun other => if other.1 = key then (key, value) else other) =
          pairs.map id := by
        refine List.map_congr_left fun other hother => if_neg ?_
        rintro rfl
        exact hpair (hk ▸ List.mem_map_of_mem hother)
      rw [if_pos hk, if_pos hk, hrest, List.map_id, hk]
    · have hrest := (List.mem_cons.1 h).resolve_left (Ne.symm hk)
      rw [if_neg hk, if_neg hk, ih hn hrest]

theorem map_fst_setPair (key value : String) (pairs : List (String × String)) :
    (setPair key value pairs).map Prod.fst =
      if key ∈ pairs.map Prod.fst then pairs.map Prod.fst else pairs.map Prod.fst ++ [key] := by
  induction pairs with
  | nil => rfl
  | cons pair pairs ih =>
    rw [setPair, List.map_cons]
    by_cases hk : pair.1 = key
    · rw [if_pos hk, if_pos (List.mem_cons.2 (.inl hk.symm)), List.map_cons]
    · simp only [if_neg hk, List.map_cons, ih, List.mem_cons, Ne.symm hk, false_or]
      split <;> rfl

theorem eq_or_mem_of_mem_setPair (hn : (pairs.map Prod.fst).Nodup) {value : String}
    {pair : String × String} (h : pair ∈ setPair key value pairs) :
    pair = (key, value) ∨ pair ∈ pairs ∧ pair.1 ≠ key := by
  by_cases hkey : key ∈ pairs.map Prod.fst
  · rw [setPair_of_mem hn hkey] at h
    obtain ⟨old, hold, rfl⟩ := List.mem_map.1 h
    split
    · exact .inl rfl
    · next hne => exact .inr ⟨hold, hne⟩
  · rw [setPair_of_not_mem hkey] at h
    rcases List.mem_append.1 h with h | h
    · exact .inr ⟨h, fun he => hkey (he ▸ List.mem_map_of_mem h)⟩
    · exact .inl (List.mem_singleton.1 h)

theorem eraseDups_concat (keys : List String) (key : String) :
    (keys ++ [key]).eraseDups =
      if key ∈ keys then keys.eraseDups else keys.eraseDups ++ [key] := by
  rw [List.eraseDups_append]
  split
  · next h => simp [List.removeAll, h]
  · next h =>
    have hremove : [key].removeAll keys = [key] := by simp [List.removeAll, h]
    rw [hremove]
    rfl

def lastCall? (calls : List (String × String)) (key : String) : Option (String × String) :=
  last? (fun call => if call.1 = key then some call else none) calls

theorem lastCall?_concat (calls : List (String × String)) (call : String × String) (key : String) :
    lastCall? (calls ++ [call]) key =
      if call.1 = key then some call else lastCall? calls key := by
  rw [lastCall?, last?_concat]
  split <;> rfl

def accepted (calls : List (String × String)) : List (String × String) :=
  calls.filter fun call => ¬ Refused call.1

/-- The map that accepted calls make: every key where it first came, as it was called last. -/
def ordered (accepted : List (String × String)) : List (String × String) :=
  (accepted.map Prod.fst).eraseDups.filterMap (lastCall? accepted)

/-- Pairs as accepted calls leave them. -/
structure InOrder (accepted pairs : List (String × String)) : Prop where
  keys : pairs.map Prod.fst = (accepted.map Prod.fst).eraseDups
  nodup : (pairs.map Prod.fst).Nodup
  last : ∀ pair ∈ pairs, lastCall? accepted pair.1 = some pair

/-- A call keeps the order, whether its key is new or not. -/
theorem InOrder.setPair {accepted : List (String × String)} (h : InOrder accepted pairs)
    (key value : String) :
    InOrder (accepted ++ [(key, value)]) (setPair key value pairs) := by
  refine ⟨?_, ?_, ?_⟩
  · simp only [map_fst_setPair, List.map_append, List.map_singleton, eraseDups_concat, h.keys,
      List.mem_eraseDups]
  · rw [map_fst_setPair]
    split
    · exact h.nodup
    · next hkey => exact List.nodup_append_comm.2 (List.nodup_cons.2 ⟨hkey, h.nodup⟩)
  · intro pair hpair
    rw [lastCall?_concat]
    rcases eq_or_mem_of_mem_setPair h.nodup hpair with rfl | ⟨hold, hne⟩
    · rw [if_pos rfl]
    · rw [if_neg (Ne.symm hne), h.last pair hold]

theorem InOrder.eq_ordered {accepted : List (String × String)} (h : InOrder accepted pairs) :
    pairs = ordered accepted := by
  rw [ordered, ← h.keys, List.filterMap_map]
  calc pairs = pairs.filterMap some := List.filterMap_some.symm
    _ = pairs.filterMap (lastCall? accepted ∘ Prod.fst) :=
      List.filterMap_congr fun pair hpair => (h.last pair hpair).symm

theorem accepted_concat (calls : List (String × String)) (call : String × String) :
    accepted (calls ++ [call]) =
      if Refused call.1 then accepted calls else accepted calls ++ [call] := by
  rw [accepted, List.filter_append]
  by_cases h : Refused call.1
  · simp [h, accepted]
  · simp [h, accepted]

theorem inOrder_ofCalls (calls : List (String × String)) :
    InOrder (accepted calls) (ofCalls calls).pairs := by
  induction calls using List.reverseRecOn with
  | nil => exact ⟨rfl, List.nodup_nil, nofun⟩
  | append_singleton calls call ih =>
    rw [ofCalls_concat, offer_eq, accepted_concat]
    split
    · exact ih
    · exact ih.setPair call.1 call.2

theorem ofCalls_concat_eq (calls : List (String × String)) (key value : String) :
    ofCalls (calls ++ [(key, value)]) =
      if Refused key then ofCalls calls
      else if key ∈ (ofCalls calls).pairs.map Prod.fst then
        ⟨(ofCalls calls).pairs.map fun pair => if pair.1 = key then (key, value) else pair⟩
      else ⟨(ofCalls calls).pairs ++ [(key, value)]⟩ := by
  rw [ofCalls_concat, offer_eq]
  split
  · rfl
  split
  · next hkey => rw [setPair_of_mem (inOrder_ofCalls calls).nodup hkey]
  · next hkey => rw [setPair_of_not_mem hkey]

/-- Whatever calls are made on a new header, its labels are the accepted keys, each once and where it
first came, with the value of the last accepted call for it; its text has a line for each of them in
that order, and costs what its size says. Another call is refused by its key alone, and then leaves the
labels as they are. If it is accepted, it gives the label of its key another value where it stands, or
puts a new label at the end. -/
theorem ofCalls_in_order (calls : List (String × String)) :
    let labels := ofCalls calls
    let text := String.join
      ((ordered (accepted calls)).map fun (key, value) => key ++ "=" ++ value ++ "\r\n")
    (labels.pairs.map Prod.fst = ((accepted calls).map Prod.fst).eraseDups ∧
      (labels.pairs.map Prod.fst).Nodup ∧ labels.pairs = ordered (accepted calls)) ∧
    (labels.content = text ∧ ∀ around : Ambient,
      ({ Header.blank around with labels } : Header).size = 4 + stringSize (some text)) ∧
    ∀ key value : String,
      labels.set key value = (if Refused key then .error (.badLabelKey key)
        else .ok (ofCalls (calls ++ [(key, value)]))) ∧
      ofCalls (calls ++ [(key, value)]) =
        if Refused key then labels
        else if key ∈ labels.pairs.map Prod.fst then
          ⟨labels.pairs.map fun pair => if pair.1 = key then (key, value) else pair⟩
        else ⟨labels.pairs ++ [(key, value)]⟩ := by
  intro labels text
  have h := inOrder_ofCalls calls
  have hcontent : labels.content = text := by
    rw [content, h.eq_ordered]
    rfl
  refine ⟨⟨h.keys, h.nodup, h.eq_ordered⟩, ⟨hcontent, fun around => ?_⟩, fun key value => ⟨?_, ?_⟩⟩
  · rw [Header.size, hcontent]
  · rw [ofCalls_concat, set_eq, offer_eq]
    split <;> rfl
  · exact ofCalls_concat_eq calls key value

/-- A refused call between two calls for one key. -/
example : (ofCalls [("b", "1"), ("=", "2"), ("a", "3"), ("b", "4")]).pairs =
    [("b", "4"), ("a", "3")] := by
  decide

end PacketLog.Labels
