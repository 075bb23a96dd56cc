import SecondDisplay.Net.DiscoveryCache
import Mathlib.Data.List.Pairwise

/-!
# What the discovery cache keeps

Over all calls of the cache from the empty one: ids are not shared, what is online has a time to
live that has started when it was last seen, only a live answer brings a record online, and
addresses are not forgotten (`cache_sound`).  A device that was found by its id stays findable until
an answer without an id replaces its record (`stays_findable`).

A record's place in the list never changes.  Every turn of the loop of `Merge` leaves the list,
changes the first record that the answer belongs to, or adds a record (`mergeRecord_cases`); what
follows is read off that.
-/

namespace SecondDisplay

namespace DiscoveryCache

/-! ### One turn -/

/-- What one turn of the loop of `Merge` can do. -/
inductive Turn (now : Int) (records : List DiscoveryRecord) (incoming : DiscoveryRecord) :
    List DiscoveryRecord → Prop where
  /-- A device that nobody knows leaves. -/
  | unknown (hleaving : leaving incoming = true)
      (hnone : ∀ record ∈ records, belongs incoming record = false) :
      Turn now records incoming records
  /-- A known device leaves. -/
  | leaves {i : Nat} {existing : DiscoveryRecord} (hleaving : leaving incoming = true)
      (hi : records[i]? = some existing)
      (hfind : records.find? (belongs incoming) = some existing) :
      Turn now records incoming (records.set i (gone now existing))
  /-- A device is new. -/
  | arrives (hlive : leaving incoming = false)
      (hnone : ∀ record ∈ records, belongs incoming record = false) :
      Turn now records incoming (records ++ [fresh now incoming])
  /-- A known device announces itself again. -/
  | renews {i : Nat} {existing : DiscoveryRecord} (hlive : leaving incoming = false)
      (hi : records[i]? = some existing)
      (hfind : records.find? (belongs incoming) = some existing) :
      Turn now records incoming (records.set i (renewed now incoming existing))

theorem modify_eq_set {records : List DiscoveryRecord} {i : Nat} {existing : DiscoveryRecord}
    (hi : records[i]? = some existing) (f : DiscoveryRecord → DiscoveryRecord) :
    records.modify i f = records.set i (f existing) := by
  rw [List.modify_eq_set_getElem?, hi]
  rfl

/-- **The turns of `Merge`.** -/
theorem mergeRecord_cases (now : Int) (records : List DiscoveryRecord)
    (incoming : DiscoveryRecord) :
    Turn now records incoming (mergeRecord now records incoming) := by
  rw [mergeRecord]
  cases hfind : records.findIdx? (belongs incoming) with
  | none =>
    have hnone := List.findIdx?_eq_none_iff.1 hfind
    cases hleaving : leaving incoming with
    | true => exact .unknown hleaving hnone
    | false => exact .arrives hleaving hnone
  | some i =>
    obtain ⟨hlt, hbelongs, hfirst⟩ := List.findIdx?_eq_some_iff_getElem.1 hfind
    have hi : records[i]? = some records[i] := List.getElem?_eq_getElem hlt
    have hfind : records.find? (belongs incoming) = some records[i] :=
      List.find?_eq_some_iff_getElem.2
        ⟨hbelongs, i, hlt, rfl, fun j hj => by simpa using hfirst j hj⟩
    cases hleaving : leaving incoming with
    | true =>
      show Turn now records incoming (records.modify i (gone now))
      rw [modify_eq_set hi]
      exact .leaves hleaving hi hfind
    | false =>
      show Turn now records incoming (records.modify i (renewed now incoming))
      rw [modify_eq_set hi]
      exact .renews hleaving hi hfind

/-- A place of a list after a write is as it was or holds what was written. -/
theorem getElem?_set_cases {records : List DiscoveryRecord} {i j : Nat}
    {record new : DiscoveryRecord} (h : (records.set i new)[j]? = some record) :
    (i = j ∧ record = new) ∨ (i ≠ j ∧ records[j]? = some record) := by
  rw [List.getElem?_set] at h
  by_cases hij : i = j
  · rw [if_pos hij] at h
    split at h
    · exact .inl ⟨hij, (Option.some.inj h).symm⟩
    · cases h
  · rw [if_neg hij] at h
    exact .inr ⟨hij, h⟩

/-- A place of a list after an append is as it was or the new one. -/
theorem getElem?_concat_cases {records : List DiscoveryRecord} {j : Nat}
    {record new : DiscoveryRecord} (h : (records ++ [new])[j]? = some record) :
    records[j]? = some record ∨ (j = records.length ∧ record = new) := by
  rw [List.getElem?_append] at h
  split at h
  · exact .inl h
  · rename_i hlt
    obtain ⟨hj, heq⟩ := List.getElem?_eq_some_iff.1 h
    rw [List.length_singleton] at hj
    rw [List.getElem_singleton] at heq
    exact .inr ⟨by omega, heq.symm⟩

/-- A live answer lives for some time. -/
theorem ttl_pos {incoming : DiscoveryRecord} (hlive : leaving incoming = false) :
    0 < incoming.ttlSeconds := by
  rw [leaving, Bool.or_eq_false_iff, decide_eq_false_iff_not] at hlive
  exact UInt32.pos_iff_ne_zero.2 hlive.2

theorem fresh_expiresAt (now : Int) {incoming : DiscoveryRecord}
    (hlive : leaving incoming = false) :
    (fresh now incoming).expiresAt = now + seconds incoming.ttlSeconds := by
  have hne : incoming.ttlSeconds ≠ 0 := UInt32.pos_iff_ne_zero.1 (ttl_pos hlive)
  show now + seconds (if incoming.ttlSeconds = 0 then 1 else incoming.ttlSeconds) = _
  rw [if_neg hne]

theorem seconds_pos {n : UInt32} (h : 0 < n) : 0 < seconds n := by
  have hn : 0 < n.toNat := UInt32.lt_iff_toNat_lt.1 h
  rw [seconds]
  omega

/-! ### Addresses -/

theorem mem_withFallbacks {addresses known : List Bytes} {address : Bytes} :
    address ∈ withFallbacks addresses known ↔ address ∈ addresses ∨ address ∈ known := by
  induction known generalizing addresses with
  | nil => simp [withFallbacks]
  | cons first known ih =>
    show address ∈ withFallbacks (if first ∈ addresses then addresses else addresses ++ [first])
      known ↔ _
    rw [ih]
    by_cases hmem : first ∈ addresses
    · rw [if_pos hmem, List.mem_cons]
      constructor
      · exact Or.imp id Or.inr
      · rintro (h | rfl | h)
        · exact .inl h
        · exact .inl hmem
        · exact .inr h
    · rw [if_neg hmem, List.mem_append, List.mem_singleton, List.mem_cons, or_assoc]

/-- Every place of the list keeps its addresses. -/
def Remembers (records records' : List DiscoveryRecord) : Prop :=
  ∀ (i : Nat) (existing : DiscoveryRecord), records[i]? = some existing →
    ∃ record : DiscoveryRecord, records'[i]? = some record ∧ ∀ address ∈ existing.addresses,
      address ∈ record.addresses

theorem Remembers.refl (records : List DiscoveryRecord) : Remembers records records :=
  fun _ existing h => ⟨existing, h, fun _ hmem => hmem⟩

theorem Remembers.trans {a b c : List DiscoveryRecord} (hab : Remembers a b)
    (hbc : Remembers b c) : Remembers a c := by
  intro i existing hi
  obtain ⟨next, hnext, hsub⟩ := hab i existing hi
  obtain ⟨last, hlast, hsub'⟩ := hbc i next hnext
  exact ⟨last, hlast, fun address hmem => hsub' address (hsub address hmem)⟩

theorem Remembers.set {records : List DiscoveryRecord} {i : Nat}
    {existing new : DiscoveryRecord} (hi : records[i]? = some existing)
    (hsub : ∀ address ∈ existing.addresses, address ∈ new.addresses) :
    Remembers records (records.set i new) := by
  intro j record hj
  rw [List.getElem?_set]
  by_cases hij : i = j
  · subst hij
    rw [if_pos rfl, if_pos (List.getElem?_eq_some_iff.1 hi).1]
    obtain rfl : existing = record := Option.some.inj (hi.symm.trans hj)
    exact ⟨new, rfl, hsub⟩
  · rw [if_neg hij]
    exact ⟨record, hj, fun _ hmem => hmem⟩

theorem Turn.remembers {now : Int} {records records' : List DiscoveryRecord}
    {incoming : DiscoveryRecord} (h : Turn now records incoming records') :
    Remembers records records' := by
  cases h with
  | unknown hleaving hnone => exact Remembers.refl records
  | leaves hleaving hi hfind => exact Remembers.set hi fun _ hmem => hmem
  | arrives hlive hnone =>
    intro i existing hi
    refine ⟨existing, ?_, fun _ hmem => hmem⟩
    rw [List.getElem?_append_left (List.getElem?_eq_some_iff.1 hi).1, hi]
  | renews hlive hi hfind =>
    exact Remembers.set hi fun address hmem => mem_withFallbacks.2 (.inr hmem)

/-- **No address is forgotten.** -/
theorem merge_remembers (records incoming : List DiscoveryRecord) (now : Int) :
    Remembers records (merge records incoming now) := by
  induction incoming generalizing records with
  | nil => exact Remembers.refl records
  | cons answer incoming ih => exact (mergeRecord_cases now records answer).remembers.trans (ih _)

/-! ### Ids -/

/-- No two records share an id. -/
def UniqueIds (records : List DiscoveryRecord) : Prop :=
  ∀ (i j : Nat) (a b : DiscoveryRecord), records[i]? = some a → records[j]? = some b →
    a.id ≠ [] → a.id = b.id → i = j

/-- The answer with an id belongs to the record with that id. -/
theorem id_of_belongs {incoming existing : DiscoveryRecord}
    (hbelongs : belongs incoming existing = true) (hid : incoming.id ≠ []) :
    existing.id = incoming.id := by
  simp only [belongs, Bool.or_eq_true, Bool.and_eq_true, decide_eq_true_eq] at hbelongs
  obtain ⟨-, h⟩ | ⟨⟨hnil, -⟩, -⟩ := hbelongs
  · exact h
  · exact absurd hnil hid

theorem UniqueIds.set {records : List DiscoveryRecord} {i : Nat} {existing new : DiscoveryRecord}
    (h : UniqueIds records) (hi : records[i]? = some existing)
    (hnew : new.id ≠ [] → new.id = existing.id) : UniqueIds (records.set i new) := by
  intro j k a b ha hb hid hsame
  obtain ⟨hj, hnewa⟩ | ⟨-, hold⟩ := getElem?_set_cases ha
  · obtain ⟨hk, -⟩ | ⟨-, hold⟩ := getElem?_set_cases hb
    · exact hj.symm.trans hk
    · subst hnewa
      have hid' := hnew hid
      exact hj.symm.trans (h i k existing b hi hold (hid' ▸ hid) (hid' ▸ hsame))
  · obtain ⟨hk, hnewb⟩ | ⟨-, hold'⟩ := getElem?_set_cases hb
    · subst hnewb
      exact (h j i a existing hold hi hid (hsame.trans (hnew (hsame ▸ hid)))).trans hk
    · exact h j k a b hold hold' hid hsame

theorem UniqueIds.append {records : List DiscoveryRecord} {new : DiscoveryRecord}
    (h : UniqueIds records)
    (hnew : ∀ record ∈ records, new.id ≠ [] → record.id ≠ new.id) :
    UniqueIds (records ++ [new]) := by
  intro j k a b ha hb hid hsame
  obtain hold | ⟨hj, hnewa⟩ := getElem?_concat_cases ha
  · obtain hold' | ⟨-, hnewb⟩ := getElem?_concat_cases hb
    · exact h j k a b hold hold' hid hsame
    · subst hnewb
      exact absurd hsame (hnew a (List.mem_of_getElem? hold) (hsame ▸ hid))
  · obtain hold | ⟨hk, -⟩ := getElem?_concat_cases hb
    · subst hnewa
      exact absurd hsame.symm (hnew b (List.mem_of_getElem? hold) hid)
    · exact hj.trans hk.symm

theorem Turn.uniqueIds {now : Int} {records records' : List DiscoveryRecord}
    {incoming : DiscoveryRecord} (h : Turn now records incoming records')
    (hunique : UniqueIds records) : UniqueIds records' := by
  cases h with
  | unknown hleaving hnone => exact hunique
  | leaves hleaving hi hfind => exact hunique.set hi fun _ => rfl
  | arrives hlive hnone =>
    refine hunique.append fun record hmem hid heq => ?_
    have hbelongs : belongs incoming record = true := by
      rw [belongs, decide_eq_true (show incoming.id ≠ [] from hid),
        decide_eq_true (show record.id = incoming.id from heq)]
      rfl
    rw [hnone record hmem] at hbelongs
    cases hbelongs
  | renews hlive hi hfind =>
    exact hunique.set hi fun hid => (id_of_belongs (List.find?_some hfind) hid).symm

/-! ### What is online -/

/-- An online record has not said goodbye and lives from when it was last seen. -/
def Sound (record : DiscoveryRecord) : Prop :=
  record.online = true → record.goodbye = false ∧ 0 < record.ttlSeconds ∧
    record.expiresAt = record.lastSeen + seconds record.ttlSeconds ∧ 0 < record.expiresAt

theorem fresh_sound {now : Int} (hnow : 0 < now) {incoming : DiscoveryRecord}
    (hlive : leaving incoming = false) (addresses : List Bytes) :
    Sound { fresh now incoming with addresses := addresses } := by
  intro _
  have hexpires := fresh_expiresAt now hlive
  have httl := ttl_pos hlive
  refine ⟨rfl, httl, hexpires, ?_⟩
  show 0 < (fresh now incoming).expiresAt
  rw [hexpires]
  have := seconds_pos httl
  omega

/-- What is online after a turn was so before or has just been announced. -/
def Announced (now : Int) (incoming : DiscoveryRecord) (record : DiscoveryRecord) : Prop :=
  leaving incoming = false ∧
    ∃ addresses, record = { fresh now incoming with addresses := addresses }

theorem Turn.announced {now : Int} {records records' : List DiscoveryRecord}
    {incoming : DiscoveryRecord} (h : Turn now records incoming records') {i : Nat}
    {record : DiscoveryRecord} (hi : records'[i]? = some record) (honline : record.online = true) :
    records[i]? = some record ∨ Announced now incoming record := by
  cases h with
  | unknown hleaving hnone => exact .inl hi
  | leaves hleaving hj hfind =>
    obtain ⟨-, rfl⟩ | ⟨-, hold⟩ := getElem?_set_cases hi
    · cases honline
    · exact .inl hold
  | arrives hlive hnone =>
    obtain hold | ⟨-, rfl⟩ := getElem?_concat_cases hi
    · exact .inl hold
    · exact .inr ⟨hlive, _, rfl⟩
  | renews hlive hj hfind =>
    obtain ⟨-, rfl⟩ | ⟨-, hold⟩ := getElem?_set_cases hi
    · exact .inr ⟨hlive, _, rfl⟩
    · exact .inl hold

/-- **Only a live answer brings a record online.** -/
theorem merge_announced {now : Int} {incoming records : List DiscoveryRecord} {i : Nat}
    {record : DiscoveryRecord} (hi : (merge records incoming now)[i]? = some record)
    (honline : record.online = true) :
    records[i]? = some record ∨ ∃ answer ∈ incoming, Announced now answer record := by
  induction incoming generalizing records with
  | nil => exact .inl hi
  | cons answer incoming ih =>
    obtain hturn | ⟨later, hmem, hannounced⟩ := ih hi
    · obtain hold | hannounced := (mergeRecord_cases now records answer).announced hturn honline
      · exact .inl hold
      · exact .inr ⟨answer, List.mem_cons_self, hannounced⟩
    · exact .inr ⟨later, List.mem_cons_of_mem answer hmem, hannounced⟩

/-- `Expire` brings nothing online, and leaves a record that stays online as it is. -/
theorem expire_online {now : Int} {records : List DiscoveryRecord} {i : Nat}
    {record : DiscoveryRecord} (hi : (expire records now)[i]? = some record)
    (honline : record.online = true) :
    records[i]? = some record ∧ (record.expiresAt ≠ 0 → now < record.expiresAt) := by
  rw [expire, List.getElem?_map, Option.map_eq_some_iff] at hi
  obtain ⟨existing, hold, rfl⟩ := hi
  rw [expireRecord] at honline ⊢
  split at honline
  · cases honline
  · rename_i hkept
    rw [if_neg hkept]
    refine ⟨hold, fun hne => ?_⟩
    by_contra hdue
    exact hkept ⟨honline, hne, by omega⟩

theorem expireRecord_id (now : Int) (record : DiscoveryRecord) :
    (expireRecord now record).id = record.id := by
  rw [expireRecord]
  split <;> rfl

/-! ### Every run -/

/-- The invariant of the cache. -/
structure Inv (records : List DiscoveryRecord) : Prop where
  unique : UniqueIds records
  sound : ∀ record ∈ records, Sound record

theorem inv_nil : Inv [] := by
  constructor
  · intro i j a b ha
    rw [List.getElem?_nil] at ha
    cases ha
  · intro record hmem
    cases hmem

theorem inv_merge {records : List DiscoveryRecord} (h : Inv records) {now : Int} (hnow : 0 < now)
    (incoming : List DiscoveryRecord) : Inv (merge records incoming now) := by
  induction incoming generalizing records with
  | nil => exact h
  | cons answer incoming ih =>
    have hturn := mergeRecord_cases now records answer
    refine ih ⟨hturn.uniqueIds h.unique, fun record hmem => ?_⟩
    intro honline
    obtain ⟨i, hi⟩ := List.getElem?_of_mem hmem
    obtain hold | ⟨hlive, addresses, rfl⟩ := hturn.announced hi honline
    · exact h.sound record (List.mem_of_getElem? hold) honline
    · exact fresh_sound hnow hlive addresses honline

theorem inv_expire {records : List DiscoveryRecord} (h : Inv records) (now : Int) :
    Inv (expire records now) := by
  constructor
  · intro i j a b ha hb hid hsame
    rw [expire, List.getElem?_map, Option.map_eq_some_iff] at ha hb
    obtain ⟨a, ha, rfl⟩ := ha
    obtain ⟨b, hb, rfl⟩ := hb
    rw [expireRecord_id] at hid
    rw [expireRecord_id, expireRecord_id] at hsame
    exact h.unique i j a b ha hb hid hsame
  · intro record hmem honline
    obtain ⟨i, hi⟩ := List.getElem?_of_mem hmem
    exact h.sound record (List.mem_of_getElem? (expire_online hi honline).1) honline

/-- The calls of `Merge` come at positive time points. -/
def Positive (calls : List Call) : Prop := ∀ incoming now, Call.merge incoming now ∈ calls → 0 < now

theorem inv_after {calls : List Call} (hpositive : Positive calls) : Inv (after calls) := by
  have key : ∀ (records : List DiscoveryRecord), Inv records →
      Inv (calls.foldl Call.apply records) := by
    induction calls with
    | nil => exact fun _ h => h
    | cons call calls ih =>
      intro records h
      refine ih (fun incoming now hmem => hpositive incoming now (.tail call hmem)) _ ?_
      cases call with
      | merge incoming now => exact inv_merge h (hpositive incoming now (.head calls)) incoming
      | expire now => exact inv_expire h now
  exact key [] inv_nil

theorem after_merge (calls : List Call) (incoming : List DiscoveryRecord) (now : Int) :
    after (calls ++ [.merge incoming now]) = merge (after calls) incoming now := by
  rw [after, List.foldl_append]
  rfl

theorem after_expire (calls : List Call) (now : Int) :
    after (calls ++ [.expire now]) = expire (after calls) now := by
  rw [after, List.foldl_append]
  rfl

/-- **The discovery cache, after any calls.**  No two records share an id; an online record has not
said goodbye and lives for its time to live from when it was last seen; an expiry leaves online only
what is not due yet, and brings nothing online; what a merge brings online is the record of one of
its live answers; and a merge forgets no address of any record. -/
theorem cache_sound (calls : List Call) (hpositive : Positive calls) :
    UniqueIds (after calls) ∧
    (∀ record ∈ after calls, record.online = true → record.goodbye = false ∧
      0 < record.ttlSeconds ∧
      record.expiresAt = record.lastSeen + seconds record.ttlSeconds) ∧
    (∀ (now : Int) (i : Nat) (record : DiscoveryRecord),
      (after (calls ++ [.expire now]))[i]? = some record →
      record.online = true →
      now < record.expiresAt ∧ (after calls)[i]? = some record) ∧
    (∀ (incoming : List DiscoveryRecord) (now : Int) (i : Nat) (record : DiscoveryRecord),
      (after (calls ++ [.merge incoming now]))[i]? = some record →
      record.online = true →
      (after calls)[i]? = some record ∨ ∃ answer ∈ incoming, Announced now answer record) ∧
    ∀ incoming now, Remembers (after calls) (after (calls ++ [.merge incoming now])) := by
  have hinv := inv_after hpositive
  refine ⟨hinv.unique, ?_, ?_, ?_, ?_⟩
  · intro record hmem honline
    obtain ⟨hgoodbye, httl, hexpires, -⟩ := hinv.sound record hmem honline
    exact ⟨hgoodbye, httl, hexpires⟩
  · intro now i record hi honline
    rw [after_expire] at hi
    obtain ⟨hold, hdue⟩ := expire_online hi honline
    obtain ⟨-, -, -, hpos⟩ := hinv.sound record (List.mem_of_getElem? hold) honline
    exact ⟨hdue (by omega), hold⟩
  · intro incoming now i record hi honline
    rw [after_merge] at hi
    exact merge_announced hi honline
  · intro incoming now
    rw [after_merge]
    exact merge_remembers _ incoming now

/-- An iPad as it announces itself. -/
def ipad : DiscoveryRecord where
  id := ascii "stable-id"
  name := ascii "iPad"
  instanceName := ascii "iPad"
  address := ascii "192.168.1.10"
  host := ascii "ipad.local"
  port := 9000
  ttlSeconds := 2

/-- The same iPad at another address. -/
def movedIpad : DiscoveryRecord := { ipad with address := ascii "192.168.1.77" }

theorem positive_moved : Positive [.merge [ipad] 1, .merge [movedIpad] 2] := by
  intro incoming now hmem
  simp only [List.mem_cons, Call.merge.injEq, List.not_mem_nil, or_false] at hmem
  obtain ⟨-, rfl⟩ | ⟨-, rfl⟩ := hmem <;> decide

/-- One record, at the new address, with the old one as a fallback. -/
theorem cache_sound_moved :
    (after [.merge [ipad] 1, .merge [movedIpad] 2]).map (·.addresses) =
        [[ascii "192.168.1.77", ascii "192.168.1.10"]] ∧
      UniqueIds (after [.merge [ipad] 1, .merge [movedIpad] 2]) :=
  ⟨by decide +kernel, (cache_sound _ positive_moved).1⟩

/-! ### Finding a device again -/

/-- A live answer without an id replaces, by its instance name, a record that has one. -/
def forgets (records : List DiscoveryRecord) (incoming : DiscoveryRecord) : Bool :=
  !leaving incoming && decide (incoming.id = []) &&
    (records.find? (belongs incoming)).any fun existing => decide (existing.id ≠ [])

/-- The loop of `Merge`, one answer at a time. -/
def turn (now : Int) (records : List DiscoveryRecord) (incoming : DiscoveryRecord) :
    Option (List DiscoveryRecord) :=
  some (mergeRecord now records incoming)

/-- No turn of a call forgets an id. -/
def Call.KeepsIds (records : List DiscoveryRecord) : Call → Prop
  | .merge incoming now =>
    Transitions.Along (turn now) (fun records answer => forgets records answer = false) records
      incoming
  | .expire _ => True

/-- A call as a step. -/
def Call.step (records : List DiscoveryRecord) (call : Call) : Option (List DiscoveryRecord) :=
  some (call.apply records)

theorem run_turn (now : Int) (records incoming : List DiscoveryRecord) :
    Transitions.run (turn now) records incoming = some (merge records incoming now) := by
  induction incoming generalizing records with
  | nil => rfl
  | cons answer incoming ih => exact ih _

theorem run_step (records : List DiscoveryRecord) (calls : List Call) :
    Transitions.run Call.step records calls = some (calls.foldl Call.apply records) := by
  induction calls generalizing records with
  | nil => rfl
  | cons call calls ih => exact ih _

/-- `FindById` has an answer. -/
def Found (id : Bytes) (records : List DiscoveryRecord) : Prop :=
  id ≠ [] ∧ ∃ record ∈ records, record.id = id

theorem findById_eq_some {records : List DiscoveryRecord} {id : Bytes} {record : DiscoveryRecord}
    (h : findById records id = some record) : id ≠ [] ∧ record ∈ records ∧ record.id = id := by
  rw [findById] at h
  split at h
  · cases h
  · rename_i hid
    have heq := List.find?_some h
    exact ⟨hid, List.mem_of_find?_eq_some h, of_decide_eq_true heq⟩

theorem found_iff {records : List DiscoveryRecord} {id : Bytes} :
    Found id records ↔ ∃ record, findById records id = some record ∧ record.id = id := by
  constructor
  · rintro ⟨hid, record, hmem, heq⟩
    rw [findById, if_neg hid]
    cases hfind : records.find? fun record => decide (record.id = id) with
    | none =>
      have := List.find?_eq_none.1 hfind record hmem
      exact absurd (decide_eq_true heq) this
    | some found =>
      have hfound := List.find?_some hfind
      exact ⟨found, rfl, of_decide_eq_true hfound⟩
  · rintro ⟨record, hfind, heq⟩
    obtain ⟨hid, hmem, -⟩ := findById_eq_some hfind
    exact ⟨hid, record, hmem, heq⟩

theorem Found.set {records : List DiscoveryRecord} {id : Bytes} {i : Nat}
    {existing new : DiscoveryRecord} (h : Found id records) (hi : records[i]? = some existing)
    (hnew : existing.id = id → new.id = id) : Found id (records.set i new) := by
  obtain ⟨hid, record, hmem, heq⟩ := h
  obtain ⟨j, hj⟩ := List.getElem?_of_mem hmem
  by_cases hij : i = j
  · subst hij
    obtain rfl : existing = record := Option.some.inj (hi.symm.trans hj)
    exact ⟨hid, new, List.mem_set (List.getElem?_eq_some_iff.1 hi).1 new, hnew heq⟩
  · have hkept : (records.set i new)[j]? = some record := by
      rw [List.getElem?_set_ne hij, hj]
    exact ⟨hid, record, List.mem_of_getElem? hkept, heq⟩

/-- A turn that forgets no id keeps what is found by an id. -/
theorem Turn.found {now : Int} {records records' : List DiscoveryRecord}
    {incoming : DiscoveryRecord} (h : Turn now records incoming records') {id : Bytes}
    (hfound : Found id records) (hkeeps : forgets records incoming = false) :
    Found id records' := by
  cases h with
  | unknown hleaving hnone => exact hfound
  | leaves hleaving hi hfind => exact hfound.set hi fun heq => heq
  | arrives hlive hnone =>
    obtain ⟨hid, record, hmem, heq⟩ := hfound
    exact ⟨hid, record, List.mem_append_left _ hmem, heq⟩
  | renews hlive hi hfind =>
    refine hfound.set hi fun heq => ?_
    show incoming.id = id
    by_cases hnil : incoming.id = []
    · rw [forgets, hlive, hnil, hfind, Option.any_some, heq, decide_eq_true hfound.1] at hkeeps
      cases hkeeps
    · rw [← heq, id_of_belongs (List.find?_some hfind) hnil]

/-- **When a turn keeps every device findable.** -/
theorem mergeRecord_found_iff {records : List DiscoveryRecord} (hunique : UniqueIds records)
    (now : Int) (incoming : DiscoveryRecord) :
    (∀ id, Found id records → Found id (mergeRecord now records incoming)) ↔
      forgets records incoming = false := by
  have hturn := mergeRecord_cases now records incoming
  refine ⟨fun hall => ?_, fun hkeeps id hfound => hturn.found hfound hkeeps⟩
  by_contra hforgets
  rw [Bool.not_eq_false] at hforgets
  simp only [forgets, Bool.and_eq_true, Bool.not_eq_true', decide_eq_true_eq,
    Option.any_eq_true] at hforgets
  obtain ⟨⟨hlive, hnil⟩, lost, hlost, hid⟩ := hforgets
  have hstill := hall lost.id ⟨hid, lost, List.mem_of_find?_eq_some hlost, rfl⟩
  generalize mergeRecord now records incoming = records' at hturn hstill
  cases hturn with
  | unknown hleaving hnone => rw [hlive] at hleaving; cases hleaving
  | leaves hleaving hi hfind => rw [hlive] at hleaving; cases hleaving
  | arrives hlive hnone =>
    rw [List.find?_eq_none.2 fun record hmem => Bool.eq_false_iff.1 (hnone record hmem)] at hlost
    cases hlost
  | @renews i existing hlive hi hfind =>
    obtain rfl : existing = lost := Option.some.inj (hfind.symm.trans hlost)
    obtain ⟨-, record, hmem, heq⟩ := hstill
    obtain ⟨j, hj⟩ := List.getElem?_of_mem hmem
    obtain ⟨-, rfl⟩ | ⟨hij, hold⟩ := getElem?_set_cases hj
    · exact hid (heq.symm.trans hnil)
    · exact hij (hunique i j existing record hi hold hid heq.symm)

theorem Found.expire {records : List DiscoveryRecord} {id : Bytes} (h : Found id records)
    (now : Int) : Found id (expire records now) := by
  obtain ⟨hid, record, hmem, heq⟩ := h
  exact ⟨hid, expireRecord now record, List.mem_map_of_mem hmem,
    (expireRecord_id now record).trans heq⟩

/-- What a call keeps that forgets no id. -/
theorem Found.apply {records : List DiscoveryRecord} {id : Bytes} (h : Found id records)
    {call : Call} (hkeeps : call.KeepsIds records) : Found id (call.apply records) := by
  cases call with
  | expire now => exact h.expire now
  | merge incoming now =>
    refine Transitions.along_invariant (I := Found id) ?_ h hkeeps (run_turn now records incoming)
    intro records answer records' hfound hanswer hstep
    obtain rfl := Option.some.inj hstep
    exact (mergeRecord_cases now records answer).found hfound hanswer

/-- **A device that was found by its id stays findable** through every further call none of whose
turns replaces a record with an id by an answer without one. -/
theorem stays_findable (past future : List Call) (id : Bytes)
    (hfound : (findById (after past) id).isSome = true)
    (hkeeps : Transitions.Along Call.step (fun records call => call.KeepsIds records) (after past)
      future) :
    ∃ record, findById (after (past ++ future)) id = some record ∧ record.id = id := by
  obtain ⟨record, hrecord⟩ := Option.isSome_iff_exists.1 hfound
  have hstart : Found id (after past) :=
    found_iff.2 ⟨record, hrecord, (findById_eq_some hrecord).2.2⟩
  have hrun : Transitions.run Call.step (after past) future = some (after (past ++ future)) := by
    rw [run_step, after, after, List.foldl_append]
  refine found_iff.1 (Transitions.along_invariant (I := Found id) ?_ hstart hkeeps hrun)
  intro records call records' hcall hkeeps hstep
  obtain rfl := Option.some.inj hstep
  exact hcall.apply hkeeps

/-- The iPad announces itself again, without its TXT record. -/
def namelessIpad : DiscoveryRecord := { ipad with id := [] }

/-- The expiry and the goodbye of an instance without an id keep the record. -/
theorem stays_findable_goodbye :
    ∃ record, findById (after ([.merge [ipad] 1] ++
      [.expire 5000000000, .merge [{ namelessIpad with goodbye := true }] 6000000000]))
        (ascii "stable-id") = some record ∧ record.id = ascii "stable-id" :=
  stays_findable _ _ _ (by decide +kernel)
    ⟨trivial, fun records h => by
      obtain rfl := Option.some.inj h
      exact ⟨⟨by decide +kernel, fun _ _ => trivial⟩, fun _ _ => trivial⟩⟩

/-- An announcement without the TXT record erases the id. -/
theorem stays_findable_fails_nameless :
    ¬∀ (past future : List Call) (id : Bytes), (findById (after past) id).isSome = true →
      ∃ record, findById (after (past ++ future)) id = some record ∧ record.id = id := by
  intro hall
  obtain ⟨record, hfind, -⟩ := hall [.merge [ipad] 1] [.merge [namelessIpad] 2]
    (ascii "stable-id") (by decide +kernel)
  have hnone : findById (after ([.merge [ipad] 1] ++ [.merge [namelessIpad] 2]))
      (ascii "stable-id") = none := by decide +kernel
  rw [hnone] at hfind
  cases hfind

end DiscoveryCache

end SecondDisplay
