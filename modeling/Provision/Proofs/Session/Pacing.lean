import Mathlib.Data.List.Chain
import Provision.Cloud.Client

/-!
# Slots of calls

Calls that come one after the other get their slots (`Slots.grants`), each by one reservation, as `Run.pace` makes it.
Main statements: the slots of one action are those of its calls alone, whatever else is called in between; each is the
time of the call or keeps the distance to the slot before, no call goes on before its slot, and a call that finds the
action idle does not wait (`Slots.grants_paced`). A window of one second holds no more slots of an action than its rate
says if and only if the rate divides a second (`Slots.quota_iff_dvd`): otherwise the distance is rounded down, and one
call more fits in (`Slots.four_within_second`).
-/

namespace Provision

/-- A call of an action that got a slot: when it came, and the slot. -/
structure Grant where
  action : String
  arrival : Nat
  slot : Nat
deriving DecidableEq, Repr

/-- When a call goes on. -/
def Grant.resumed (g : Grant) : Nat := Slots.wake g.arrival g.slot

/-- **Slots at a distance**: the first is the time of its call, each other one the time of its call or the earliest that
keeps the distance to the one before; so all are at a distance, no call goes on before its slot, and one does not wait
that comes at a distance from all slots before. -/
structure Paced (interval : Nat) (gs : List Grant) : Prop where
  first : ∀ g ∈ gs.head?, g.slot = g.arrival
  next : gs.IsChain fun g h => h.slot = max h.arrival (g.slot + interval)
  apart : gs.Pairwise fun g h => g.slot + interval ≤ h.slot
  held : ∀ g ∈ gs, g.slot ≤ g.resumed
  idle : ∀ before g after, gs = before ++ g :: after → (∀ h ∈ before, h.slot + interval ≤ g.arrival) →
    g.slot = g.arrival ∧ g.resumed = g.arrival

namespace Slots

/-- What a call of an action gets that comes at a time. -/
def grant (r : Rates) (slots : Slots) (action : String) (arrival : Nat) : Grant :=
  ⟨action, arrival, (reserve r slots action arrival).1⟩

/-- **What calls get that come one after the other**, each given by its action and the time at which it comes. -/
def grants (r : Rates) : Slots → List (String × Nat) → List Grant
  | _, [] => []
  | slots, (action, arrival) :: rest =>
    slots.grant r action arrival :: grants r (reserve r slots action arrival).2 rest

/-- What the calls of one action get. -/
def granted (r : Rates) (calls : List (String × Nat)) (action : String) : List Grant :=
  (grants r [] calls).filter (·.action == action)

variable {r : Rates} {slots slots' : Slots} {action : String} {now arrival interval : Nat}

theorem wake_of_le {slot : Nat} (h : slot ≤ now) : wake now slot = now := if_pos h

/-! ## Calls of one action among others -/

/-- A reservation looks at the next slot of its action only. -/
theorem reserve_of_lookup (r : Rates) (now : Nat) (h : slots.lookup action = slots'.lookup action) :
    (reserve r slots action now).1 = (reserve r slots' action now).1 ∧
      (reserve r slots action now).2.lookup action = (reserve r slots' action now).2.lookup action := by
  have hnext : slots.next action now = slots'.next action now := by rw [next, next, h]
  unfold reserve
  split
  · exact ⟨rfl, h⟩
  · simp [advance, hnext]

/-- **The calls of an action get the slots that they would get without all other calls.** -/
theorem filter_grants (action : String) : ∀ {calls : List (String × Nat)} {slots slots' : Slots},
    slots.lookup action = slots'.lookup action →
      (grants r slots calls).filter (·.action == action) = grants r slots' (calls.filter (·.1 == action))
  | [], _, _, _ => rfl
  | (other, arrival) :: rest, slots, slots', h => by
    by_cases hother : other = action
    · subst hother
      obtain ⟨hslot, hlater⟩ := reserve_of_lookup r arrival h
      have hgrant : slots.grant r other arrival = slots'.grant r other arrival := by rw [grant, grant, hslot]
      have hown : (slots'.grant r other arrival).action = other := rfl
      simp [grants, hgrant, hown, filter_grants other hlater]
    · have hlater : (reserve r slots other arrival).2.lookup action = slots'.lookup action :=
        (lookup_reserve_of_ne (Ne.symm hother)).trans h
      have hforeign : (slots.grant r other arrival).action ≠ action := hother
      simp [grants, hother, hforeign, filter_grants action hlater]

theorem granted_eq (r : Rates) (calls : List (String × Nat)) (action : String) :
    granted r calls action = grants r [] (calls.filter (·.1 == action)) :=
  filter_grants action rfl

/-- Every call gets one slot. -/
theorem map_grants : ∀ (calls : List (String × Nat)) (slots : Slots),
    (grants r slots calls).map (fun g => (g.action, g.arrival)) = calls
  | [], _ => rfl
  | (action, arrival) :: rest, slots => by
    rw [grants, List.map_cons, map_grants rest]
    rfl

/-! ## Calls of one action -/

/-- Where nothing is limited, the slot is the time of the call. -/
theorem slot_of_unlimited (h : r.interval? action = none) {calls : List (String × Nat)}
    (hown : ∀ c ∈ calls, c.1 = action) (slots : Slots) : ∀ g ∈ grants r slots calls, g.slot = g.arrival := by
  induction calls generalizing slots with
  | nil => exact fun g hg => by cases hg
  | cons c rest ih =>
    obtain ⟨hc, hrest⟩ := List.forall_mem_cons.1 hown
    refine List.forall_mem_cons.2 ⟨?_, ih hrest _⟩
    simp [grant, reserve, hc, h]

/-- The first call of an action does not wait. -/
theorem head?_grants (r : Rates) (calls : List (String × Nat)) :
    ∀ g ∈ (grants r [] calls).head?, g.slot = g.arrival := by
  intro g hg
  cases calls with
  | nil => cases hg
  | cons c rest =>
    obtain rfl : grant r [] c.1 c.2 = g := Option.some.inj hg
    unfold grant reserve
    split <;> rfl

/-- The slot of a call follows from the one before. -/
theorem isChain_grants (h : r.interval? action = some interval) {calls : List (String × Nat)}
    (hown : ∀ c ∈ calls, c.1 = action) (slots : Slots) :
    (grants r slots calls).IsChain fun g h => h.slot = max h.arrival (g.slot + interval) := by
  induction calls generalizing slots with
  | nil => exact .nil
  | cons c rest ih =>
    obtain ⟨hc, hrest⟩ := List.forall_mem_cons.1 hown
    refine List.isChain_cons.2 ⟨fun later hlater => ?_, ih hrest _⟩
    cases rest with
    | nil => cases hlater
    | cons d rest =>
      obtain rfl := Option.some.inj hlater
      have hd : d.1 = action := hrest d List.mem_cons_self
      simp only [grant, hc, hd]
      exact reserve_reserve h

end Slots

/-- Slots that follow from one another at a distance. -/
theorem Paced.of_isChain {interval : Nat} {gs : List Grant} (first : ∀ g ∈ gs.head?, g.slot = g.arrival)
    (next : gs.IsChain fun g h => h.slot = max h.arrival (g.slot + interval)) : Paced interval gs where
  first := first
  next := next
  apart := by
    have : IsTrans Grant fun g h => g.slot + interval ≤ h.slot := ⟨fun g h k hgh hhk => by omega⟩
    refine (next.imp fun g h hslot => ?_).pairwise
    rw [hslot]
    exact Nat.le_max_right _ _
  held := fun g _ => Slots.le_wake
  idle := by
    intro before g after hgs hidle
    have hslot : g.slot = g.arrival := by
      rcases List.eq_nil_or_concat' before with rfl | ⟨init, h, rfl⟩
      · exact first g (by rw [hgs]; rfl)
      · rw [hgs, List.append_assoc] at next
        -- the slot just before decides
        have hbefore : g.slot = max g.arrival (h.slot + interval) :=
          (List.isChain_cons_cons.1 (List.isChain_append.1 next).2.1).1
        rw [hbefore]
        exact Nat.max_eq_left (hidle h (by simp))
    exact ⟨hslot, Slots.wake_of_le (Nat.le_of_eq hslot)⟩

namespace Slots

theorem own_of_mem {calls : List (String × Nat)} : ∀ c ∈ calls.filter (·.1 == action), c.1 = action :=
  fun c hc => by simpa using (List.mem_filter.1 hc).2

/-- The slots of an action that is limited keep the distance of the part of a second that its rate says. -/
theorem paced_granted (h : r.rate action ≠ 0) (calls : List (String × Nat)) :
    Paced (Time.second / r.rate action) (granted r calls action) := by
  rw [granted_eq]
  exact .of_isChain (head?_grants r _) (isChain_grants (if_neg h) own_of_mem [])

/-- **The pacing of calls.** A call that is paced makes one reservation and goes on when its slot has come. Of any
calls, one after the other, each gets one slot; those of an action get the slots that they would get alone: without a
limit they do not wait, and otherwise their slots keep a distance of the part of a second that the rate says. -/
theorem grants_paced (r : Rates) (calls : List (String × Nat)) (action : String) :
    (∀ s : Session, Run.pace r action s = (.ok (), { s with
      slots := (reserve r s.slots action s.now).2, now := (s.slots.grant r action s.now).resumed })) ∧
    (grants r [] calls).map (fun g => (g.action, g.arrival)) = calls ∧
    granted r calls action = grants r [] (calls.filter (·.1 == action)) ∧
    if r.rate action = 0 then ∀ g ∈ granted r calls action, g.slot = g.arrival ∧ g.resumed = g.arrival
    else Paced (Time.second / r.rate action) (granted r calls action) := by
  refine ⟨fun _ => rfl, map_grants calls [], granted_eq r calls action, ?_⟩
  split
  · rename_i hrate
    intro g hg
    rw [granted_eq] at hg
    have hslot : g.slot = g.arrival := slot_of_unlimited (if_pos hrate) own_of_mem [] g hg
    exact ⟨hslot, wake_of_le (Nat.le_of_eq hslot)⟩
  · rename_i hrate
    exact paced_granted hrate calls

/-! ## Slots within a second -/

/-- The calls whose slots lie in the window of one second that begins at a time. -/
def within (start : Nat) (gs : List Grant) : List Grant :=
  gs.filter fun g => start ≤ g.slot ∧ g.slot < start + Time.second

/-- Slots at a distance take their room. -/
theorem length_mul_lt {start stop : Nat} : ∀ {gs : List Grant}, gs ≠ [] →
    gs.Pairwise (fun g h => g.slot + interval ≤ h.slot) → (∀ g ∈ gs, start ≤ g.slot ∧ g.slot < stop) →
      start + (gs.length - 1) * interval < stop
  | [g], _, _, hin => by
    have := hin g List.mem_cons_self
    simp only [List.length_singleton, Nat.sub_self, Nat.zero_mul]
    omega
  | g :: h :: rest, _, hapart, hin => by
    obtain ⟨hg, hrest⟩ := List.pairwise_cons.1 hapart
    have hlater : ∀ k ∈ h :: rest, start + interval ≤ k.slot ∧ k.slot < stop := by
      intro k hk
      have hfirst := hin g List.mem_cons_self
      have hroom := hg k hk
      exact ⟨by omega, (hin k (List.mem_cons_of_mem g hk)).2⟩
    have ih := length_mul_lt (List.cons_ne_nil h rest) hrest hlater
    simp only [List.length_cons, Nat.add_sub_cancel] at ih ⊢
    rw [Nat.succ_mul]
    omega

/-- Calls that all come at the start get slots at exactly the distance. -/
theorem slots_at_start (h : r.interval? action = some interval) : ∀ (count : Nat) {slots : Slots},
    (grants r slots (List.replicate count (action, 0))).map Grant.slot =
      (List.range count).map fun k => slots.next action 0 + k * interval
  | 0, _ => rfl
  | count + 1, slots => by
    have hslot : (slots.grant r action 0).slot = slots.next action 0 := by simp [grant, reserve, h]
    have hlater : (reserve r slots action 0).2.next action 0 = slots.next action 0 + interval := by
      rw [reserve, h]
      exact next_advance.trans (Nat.max_eq_right (Nat.zero_le _))
    rw [List.replicate_succ, grants, List.map_cons, slots_at_start h count, hslot, hlater, List.range_succ_eq_map,
      List.map_cons, List.map_map, Nat.zero_mul, Nat.add_zero]
    congr 1
    refine List.map_congr_left fun k _ => ?_
    rw [Function.comp, Nat.succ_mul]
    omega

/-- As many calls as the rate says, and one more, are through before the distances add up to more than a second. -/
theorem slot_le_of_start (r : Rates) (action : String) (count : Nat) :
    ∀ g ∈ grants r [] (List.replicate (count + 1) (action, 0)), g.slot ≤ count * (Time.second / r.rate action) := by
  have hown : ∀ c ∈ List.replicate (count + 1) (action, 0), c = (action, 0) := fun c => List.eq_of_mem_replicate
  intro g hg
  by_cases hrate : r.rate action = 0
  · have hslot : g.slot = g.arrival :=
      slot_of_unlimited (if_pos hrate) (fun c hc => congrArg Prod.fst (hown c hc)) [] g hg
    have hcall : (g.action, g.arrival) ∈ List.replicate (count + 1) (action, 0) := by
      rw [← map_grants (r := r) (List.replicate (count + 1) (action, 0)) []]
      exact List.mem_map_of_mem hg
    have harrival : g.arrival = 0 := congrArg Prod.snd (hown _ hcall)
    rw [hslot, harrival]
    exact Nat.zero_le _
  · have hmem : g.slot ∈ (grants r [] (List.replicate (count + 1) (action, 0))).map Grant.slot :=
      List.mem_map_of_mem hg
    rw [slots_at_start (if_neg hrate)] at hmem
    obtain ⟨k, hk, hslot⟩ := List.mem_map.1 hmem
    have hfirst : next [] action 0 = 0 := rfl
    rw [← hslot, hfirst, Nat.zero_add]
    exact Nat.mul_le_mul_right _ (Nat.le_of_lt_succ (List.mem_range.1 hk))

/-- If the rate does not divide a second, one call more fits in. -/
theorem length_within_start {r : Rates} {action : String} (h : ¬r.rate action ∣ Time.second) :
    (within 0 (granted r (List.replicate (r.rate action + 1) (action, 0)) action)).length = r.rate action + 1 := by
  have hall : (List.replicate (r.rate action + 1) (action, 0)).filter (·.1 == action) =
      List.replicate (r.rate action + 1) (action, 0) := by simp
  have hroom : r.rate action * (Time.second / r.rate action) < Time.second := by
    refine Nat.lt_of_le_of_ne (Nat.mul_div_le _ _) fun heq => h ?_
    exact ⟨_, heq.symm⟩
  rw [granted_eq, hall, within, List.filter_eq_self.2]
  · rw [← List.length_map, map_grants, List.length_replicate]
  · intro g hg
    have hslot := slot_le_of_start r action (r.rate action) g hg
    simp only [Nat.zero_le, Nat.zero_add, true_and, decide_eq_true_eq]
    omega

/-- **The rate as a quota.** In no window of one second do the distances between the slots of an action add up to a
second; so a window holds no more slots than the rate says, if the rate divides a second, and only then. -/
theorem quota_iff_dvd (r : Rates) (action : String) :
    (∀ calls start,
      ((within start (granted r calls action)).length - 1) * (Time.second / r.rate action) < Time.second) ∧
    ((∀ calls start, (within start (granted r calls action)).length ≤ r.rate action) ↔
      r.rate action ∣ Time.second) := by
  have hsecond : 0 < Time.second := by decide
  have hroom : ∀ calls start,
      ((within start (granted r calls action)).length - 1) * (Time.second / r.rate action) < Time.second := by
    intro calls start
    by_cases hrate : r.rate action = 0
    · rwa [hrate, Nat.div_zero, Nat.mul_zero]
    · have hapart := (paced_granted hrate calls).apart.filter fun g => start ≤ g.slot ∧ g.slot < start + Time.second
      by_cases hempty : within start (granted r calls action) = []
      · rwa [hempty, List.length_nil, Nat.zero_sub, Nat.zero_mul]
      · have hlast := length_mul_lt hempty hapart fun g hg => by simpa using (List.mem_filter.1 hg).2
        omega
  refine ⟨hroom, fun hquota => ?_, fun ⟨interval, hrate⟩ calls start => ?_⟩
  · by_contra h
    have := hquota (List.replicate (r.rate action + 1) (action, 0)) 0
    rw [length_within_start h] at this
    omega
  · have hpos : 0 < r.rate action := by
      refine Nat.pos_of_ne_zero fun hzero => ?_
      rw [hzero, Nat.zero_mul] at hrate
      omega
    have hinterval : Time.second / r.rate action = interval := by rw [hrate, Nat.mul_div_cancel_left _ hpos]
    have hless := hroom calls start
    rw [hinterval, hrate] at hless
    have := Nat.lt_of_mul_lt_mul_right hless
    omega

/-- Four calls of an action with three calls a second all get slots within one second. -/
theorem four_within_second :
    let r : Rates := ⟨20, [("CreateAccount", 3)]⟩
    let gs := granted r (List.replicate 4 ("CreateAccount", 0)) "CreateAccount"
    r.rate "CreateAccount" = 3 ∧ gs.map Grant.slot = [0, 333333333, 666666666, 999999999] ∧
      (within 0 gs).length = 4 := by
  decide +kernel

end Slots

end Provision
