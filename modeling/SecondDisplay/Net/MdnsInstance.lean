import SecondDisplay.Net.MdnsOrder
import SecondDisplay.Net.MdnsService
import SecondDisplay.Net.DiscoveryHistory

/-!
# Instances of the service (`net/Mdns.cpp`)

The name set in the app is the first label of the full instance name, and a label may hold any
bytes.  `ReadName` joins the labels by dots, and the instance is what stands in front of the first
dot: the label keeps its name as long as there is no dot in it (`instance_whole_iff`).  Two labels
with dots can give one instance, and the cache takes the one for the other.
-/

namespace SecondDisplay.Mdns

open Labels (wire dotted joinFrom drop_add_of_drop)

/-! ### What a name spells -/

/-- The labels of the name at an offset: labels behind their lengths up to a zero, or behind a
pointer that goes on elsewhere. -/
inductive Spells (data : Bytes) : Nat → List Bytes → Prop
  | root {cursor : Nat} {rest : Bytes} (h : data.drop cursor = 0 :: rest) : Spells data cursor []
  | label {cursor : Nat} {label rest : Bytes} {labels : List Bytes}
      (size : 0 < label.length ∧ label.length ≤ 63)
      (h : data.drop cursor = UInt8.ofNat label.length :: (label ++ rest))
      (tail : Spells data (cursor + 1 + label.length) labels) :
      Spells data cursor (label :: labels)
  | pointer {cursor : Nat} {high low : UInt8} {rest : Bytes} {labels : List Bytes}
      (mask : high &&& 0xC0 = 0xC0) (h : data.drop cursor = high :: low :: rest)
      (target : Spells data (((high &&& 0x3F).toNat <<< 8) ||| low.toNat) labels) :
      Spells data cursor labels

theorem readNameFrom_spells {data : Bytes} {cursor : Nat} {labels : List Bytes}
    (h : Spells data cursor labels) {after hops : Nat} {out : Bytes} {found : Bytes × Nat}
    (hread : readNameFrom data cursor after hops out = some found) :
    found.1 = joinFrom out labels := by
  induction h generalizing after hops out with
  | root hdrop =>
    rw [readNameFrom_zero hdrop, Option.some.injEq] at hread
    rw [← hread]
    rfl
  | label size hdrop _ ih =>
    rw [readNameFrom_label hdrop ⟨size.1, Nat.lt_of_le_of_lt size.2 (by decide)⟩] at hread
    exact ih hread
  | pointer mask hdrop _ ih =>
    have hzero : ∀ high : UInt8, high &&& 0xC0 = 0xC0 → high ≠ 0 := by
      rintro _ hmask rfl
      exact absurd hmask (by decide)
    rw [readNameFrom_pointer hdrop (hzero _ mask) mask] at hread
    split at hread
    · cases hread
    · exact ih hread

theorem Spells.ne_nil {data : Bytes} {cursor : Nat} {labels : List Bytes}
    (h : Spells data cursor labels) : ∀ label ∈ labels, label ≠ [] := by
  induction h with
  | root => simp
  | label size _ _ ih =>
    intro other hmem
    obtain rfl | hrest := List.mem_cons.1 hmem
    · exact List.length_pos_iff.1 size.1
    · exact ih other hrest
  | pointer _ _ _ ih => exact ih

/-- **What `ReadName` reads** is the text of the labels. -/
theorem readName_spells {data : Bytes} {pos : Nat} {labels : List Bytes}
    (h : Spells data pos labels)
    {found : Bytes × Nat} (hread : readName data pos = some found) : found.1 = dotted labels := by
  rw [readNameFrom_spells h hread, Labels.joinFrom_nil h.ne_nil]

theorem spells_wire {data rest : Bytes} {labels : List Bytes}
    (sizes : ∀ label ∈ labels, 0 < label.length ∧ label.length ≤ 63) {pos : Nat}
    (h : data.drop pos = wire labels ++ rest) : Spells data pos labels := by
  induction labels generalizing pos with
  | nil => exact .root h
  | cons label labels ih =>
    rw [Labels.wire_cons, List.cons_append, List.append_assoc] at h
    have hnext := drop_add_of_drop (UInt8.ofNat label.length :: label) h
    rw [List.length_cons, Nat.add_comm label.length 1, ← Nat.add_assoc] at hnext
    exact .label (sizes label List.mem_cons_self) h
      (ih (fun other hmem => sizes other (List.mem_cons_of_mem _ hmem)) hnext)

/-! ### What a packet announces -/

/-- Where a record of a packet stands, and of what kind it is. -/
structure Place where
  owner : Nat
  type : UInt16
  start : Nat
  size : Nat

/-- Where the records stand that the record loop reads. -/
def placesFrom (data : Bytes) : Nat → Nat → List Place
  | 0, _ => []
  | n + 1, pos =>
    match readName data pos with
    | none => []
    | some (_, stop) =>
      if data.length < stop + 10 then []
      else
        let dataLength := (readUint16 data (stop + 8)).toNat
        if data.length < stop + 10 + dataLength then []
        else
          { owner := pos, type := readUint16 data stop, start := stop + 10, size := dataLength } ::
            placesFrom data n (stop + 10 + dataLength)

/-- Where the records of a packet stand. -/
def placesOf (data : Bytes) : List Place :=
  if data.length < 12 then []
  else
    match skipQuestions data (readUint16 data 4).toNat 12 with
    | none => []
    | some pos =>
      placesFrom data
        ((readUint16 data 6).toNat + (readUint16 data 8).toNat + (readUint16 data 10).toNat) pos

/-- Where a record has the name of an instance: a PTR record points to it, SRV and TXT records
belong to it. -/
def Place.instanceAt (place : Place) : Option Nat :=
  if place.type = kTypePtr then some place.start
  else if place.type = kTypeSrv then if place.size < 7 then none else some place.owner
  else if place.type = kTypeTxt then some place.owner
  else none

/-- A packet announces an instance: one of its records has the name with the label and the labels
of the service, and the name can be read. -/
def Announces (data label : Bytes) : Prop :=
  ∃ place ∈ placesOf data, ∃ pos ∈ place.instanceAt,
    readName data pos ≠ none ∧ Spells data pos (label :: serviceLabels)

section

variable (inetNtop6 : Bytes → Bytes)

/-- The record at a place has the name that is there. -/
theorem entry_recordAt {data : Bytes} {place : Place} {pos stop : Nat} {name : Bytes}
    (howner : readName data place.owner = some (name, stop)) (hpos : pos ∈ place.instanceAt)
    {found : Bytes × Nat} (hread : readName data pos = some found) (ttl : UInt32) :
    found.1 ∈
      (recordAt inetNtop6 data name place.type ttl place.start place.size).entry := by
  rw [Place.instanceAt] at hpos
  rw [recordAt]
  by_cases hptr : place.type = kTypePtr
  · rw [if_pos hptr, Option.mem_some_iff] at hpos
    subst hpos
    rw [if_pos hptr, hread]
    exact rfl
  · have hown : pos = place.owner → found.1 = name := by
      rintro rfl
      rw [hread, Option.some.injEq] at howner
      rw [howner]
    rw [if_neg hptr] at hpos ⊢
    by_cases hsrv : place.type = kTypeSrv
    · rw [if_pos hsrv] at hpos ⊢
      by_cases hshort : place.size < 7
      · rw [if_pos hshort] at hpos
        cases hpos
      · rw [if_neg hshort, Option.mem_some_iff] at hpos
        rw [if_neg hshort, hown hpos.symm]
        exact rfl
    · rw [if_neg hsrv] at hpos ⊢
      by_cases htxt : place.type = kTypeTxt
      · rw [if_pos htxt, Option.mem_some_iff] at hpos
        rw [if_pos htxt, hown hpos.symm]
        exact rfl
      · rw [if_neg htxt] at hpos
        cases hpos

/-- A place with a name is a record with that name. -/
theorem entry_of_place {data : Bytes} {n pos : Nat} {place : Place}
    (hplace : place ∈ placesFrom data n pos) {start : Nat} (hstart : start ∈ place.instanceAt)
    {found : Bytes × Nat} (hread : readName data start = some found) :
    ∃ record ∈ recordsFrom inetNtop6 data n pos, found.1 ∈ record.entry := by
  induction n generalizing pos with
  | zero => cases hplace
  | succ n ih =>
    rw [placesFrom] at hplace
    rw [recordsFrom]
    cases howner : readName data pos with
    | none =>
      rw [howner] at hplace
      cases hplace
    | some owner =>
      obtain ⟨name, stop⟩ := owner
      rw [howner] at hplace
      dsimp only at hplace ⊢
      split at hplace
      · cases hplace
      · rename_i hfields
        rw [if_neg hfields]
        split at hplace
        · cases hplace
        · rename_i hdata
          rw [if_neg hdata]
          obtain rfl | hrest := List.mem_cons.1 hplace
          · exact ⟨_, List.mem_cons_self, entry_recordAt inetNtop6 howner hstart hread _⟩
          · obtain ⟨record, hrecord, hentry⟩ := ih hrest
            exact ⟨record, List.mem_cons_of_mem _ hrecord, hentry⟩

/-- An announced instance is the entry of a record. -/
theorem entry_of_announces {data label : Bytes} (h : Announces data label) :
    ∃ record ∈ recordsOf inetNtop6 data, instanceOf label ∈ record.entry := by
  obtain ⟨place, hplace, pos, hpos, hread, hspells⟩ := h
  obtain ⟨found, hfound⟩ := Option.ne_none_iff_exists'.1 hread
  rw [instanceOf_eq, ← readName_spells hspells hfound]
  rw [placesOf] at hplace
  rw [recordsOf]
  by_cases hshort : data.length < 12
  · rw [if_pos hshort] at hplace
    cases hplace
  · rw [if_neg hshort] at hplace ⊢
    cases hstart : skipQuestions data (readUint16 data 4).toNat 12 with
    | none =>
      rw [hstart] at hplace
      cases hplace
    | some start =>
      rw [hstart] at hplace
      exact entry_of_place inetNtop6 hplace hpos hfound

/-! ### The instance of an entry -/

/-- There is a receiver at a key, and it is called after it. -/
def Called (key : Bytes) (entry : Option DiscoveryRecord) : Prop :=
  ∃ receiver ∈ entry, receiver.instanceName = firstLabel key ∧ receiver.name = firstLabel key

/-- The record of an instance calls its receiver. -/
theorem called_onEntry {key : Bytes} {record : Record} (h : key ∈ record.entry)
    (entry : Option DiscoveryRecord) : Called key (onEntry key entry record) := by
  cases record with
  | ptr instanceName ttl =>
    cases h
    rw [onEntry, if_pos rfl]
    exact ⟨_, rfl, rfl, rfl⟩
  | srv name ttl port host =>
    cases h
    rw [onEntry, if_pos rfl]
    exact ⟨_, rfl, rfl, rfl⟩
  | txt name ttl id =>
    cases h
    rw [onEntry, if_pos rfl]
    exact ⟨_, rfl, rfl, rfl⟩
  | a => cases h
  | aaaa => cases h
  | ignored => cases h

/-- No record of another instance changes that. -/
theorem Called.onEntry {key : Bytes} {entry : Option DiscoveryRecord} (h : Called key entry)
    (record : Record) : Called key (Mdns.onEntry key entry record) := by
  by_cases hentry : key ∈ record.entry
  · exact called_onEntry hentry entry
  · cases record with
    | ptr instanceName ttl =>
      rw [Mdns.onEntry, if_neg fun heq => hentry (congrArg some heq)]
      exact h
    | srv name ttl port host =>
      rw [Mdns.onEntry, if_neg fun heq => hentry (congrArg some heq)]
      exact h
    | txt name ttl id =>
      rw [Mdns.onEntry, if_neg fun heq => hentry (congrArg some heq)]
      exact h
    | a => exact h
    | aaaa => exact h
    | ignored => exact h

theorem joined_called (receiver : DiscoveryRecord) (host : Option HostAddress) :
    (joined receiver host).instanceName = receiver.instanceName ∧
      (joined receiver host).name = receiver.name := by
  cases host with
  | none => exact ⟨rfl, rfl⟩
  | some host => exact ⟨rfl, rfl⟩

theorem Called.joinHosts {key : Bytes} {maps : Found × Hosts} (h : Called key maps.1[key]?) :
    Called key (Mdns.joinHosts maps)[key]? := by
  obtain ⟨receiver, hreceiver, hcalled⟩ := h
  rw [Mdns.joinHosts, Std.ExtTreeMap.getElem?_map, Option.mem_def.1 hreceiver]
  obtain ⟨hinstance, hname⟩ := joined_called receiver maps.2[receiver.host]?
  exact ⟨_, rfl, hinstance.trans hcalled.1, hname.trans hcalled.2⟩

theorem called_readRecords {data key : Bytes} {n pos : Nat} {maps : Found × Hosts}
    (h : Called key maps.1[key]? ∨
      ∃ record ∈ recordsFrom inetNtop6 data n pos, key ∈ record.entry) :
    Called key (readRecords inetNtop6 data n pos maps)[key]? := by
  induction n generalizing pos maps with
  | zero =>
    obtain hcalled | ⟨record, hrecord, -⟩ := h
    · exact hcalled.joinHosts
    · cases hrecord
  | succ n ih =>
    have hnow : ∀ {found : Found}, Called key found[key]? ∨
        (∃ record ∈ ([] : List Record), key ∈ record.entry) → Called key found[key]? := by
      rintro found (hcalled | ⟨record, hrecord, -⟩)
      · exact hcalled
      · cases hrecord
    rw [recordsFrom] at h
    rw [readRecords]
    cases howner : readName data pos with
    | none =>
      rw [howner] at h
      exact hnow h
    | some owner =>
      rw [howner] at h
      dsimp only at h ⊢
      split at h
      · rename_i hfields
        rw [if_pos hfields]
        exact hnow h
      · rename_i hfields
        rw [if_neg hfields]
        split at h
        · rename_i hdata
          rw [if_pos hdata]
          exact hnow h
        · rename_i hdata
          rw [if_neg hdata]
          refine ih ?_
          rw [apply_entry]
          obtain hcalled | ⟨record, hrecord, hentry⟩ := h
          · exact .inl (hcalled.onEntry _)
          · obtain rfl | hrest := List.mem_cons.1 hrecord
            · exact .inl (called_onEntry hentry _)
            · exact .inr ⟨record, hrest, hentry⟩

/-- **The receiver of an entry is called after its key**, whatever the map held before. -/
theorem called_parseResponse {data key : Bytes}
    (h : ∃ record ∈ recordsOf inetNtop6 data, key ∈ record.entry) (found : Found) :
    Called key (parseResponse inetNtop6 data found)[key]? := by
  rw [recordsOf] at h
  rw [parseResponse]
  by_cases hshort : data.length < 12
  · rw [if_pos hshort] at h
    obtain ⟨record, hrecord, -⟩ := h
    cases hrecord
  · rw [if_neg hshort] at h ⊢
    dsimp only
    cases hstart : skipQuestions data (readUint16 data 4).toNat 12 with
    | none =>
      rw [hstart] at h
      obtain ⟨record, hrecord, -⟩ := h
      cases hrecord
    | some start =>
      rw [hstart] at h
      exact called_readRecords inetNtop6 (.inr h)

end

/-- The instance of a label is what stands in front of its first dot. -/
theorem firstLabel_instanceOf (label : Bytes) :
    firstLabel (instanceOf label) = firstLabel label := by
  rw [firstLabel, firstLabel, instanceOf]
  induction label with
  | nil => rfl
  | cons b label ih =>
    rw [List.cons_append, List.takeWhile_cons, List.takeWhile_cons, ih]

theorem firstLabel_eq_self_iff (label : Bytes) : firstLabel label = label ↔ 0x2E ∉ label := by
  rw [firstLabel, List.takeWhile_eq_self_iff]
  constructor
  · intro hall hmem
    exact of_decide_eq_true (hall _ hmem) rfl
  · intro hdot b hb
    exact decide_eq_true fun heq => hdot (heq ▸ hb)

/-! ### What the cache stores -/

open DiscoveryCache (belongs)

/-- What an answer is stored as, now and after later calls. -/
inductive CachedAs (answer : DiscoveryRecord) : DiscoveryRecord → Prop
  | fresh (now : Int) : CachedAs answer (DiscoveryCache.fresh now answer)
  | renewed (now : Int) (existing : DiscoveryRecord) :
      CachedAs answer (DiscoveryCache.renewed now answer existing)
  | gone (now : Int) {cached : DiscoveryRecord} (h : CachedAs answer cached) :
      CachedAs answer (DiscoveryCache.gone now cached)
  | expired (now : Int) {cached : DiscoveryRecord} (h : CachedAs answer cached) :
      CachedAs answer (DiscoveryCache.expireRecord now cached)

/-- The instance stays what it was in the answer. -/
theorem CachedAs.instanceName_eq {answer cached : DiscoveryRecord} (h : CachedAs answer cached) :
    cached.instanceName = answer.instanceName := by
  induction h with
  | fresh now => rfl
  | renewed now existing => rfl
  | gone now _ ih => exact ih
  | expired now _ ih =>
    rw [DiscoveryCache.expireRecord]
    split
    · exact ih
    · exact ih

/-- Everything in the list is what an answer was stored as. -/
def AllCached (answers records : List DiscoveryRecord) : Prop :=
  ∀ record ∈ records, ∃ answer ∈ answers, CachedAs answer record

theorem AllCached.turn {now : Int} {answers records records' : List DiscoveryRecord}
    {incoming : DiscoveryRecord} (h : AllCached answers records) (hmem : incoming ∈ answers)
    (hturn : DiscoveryCache.Turn now records incoming records') : AllCached answers records' := by
  intro record hrecord
  cases hturn with
  | unknown hleaving hnone => exact h record hrecord
  | leaves hleaving hi hfind =>
    obtain hold | rfl := List.mem_or_eq_of_mem_set hrecord
    · exact h record hold
    · obtain ⟨answer, hanswer, hcached⟩ := h _ (List.mem_of_getElem? hi)
      exact ⟨answer, hanswer, hcached.gone now⟩
  | arrives hlive hnone =>
    obtain hold | hnew := List.mem_append.1 hrecord
    · exact h record hold
    · rw [List.mem_singleton.1 hnew]
      exact ⟨incoming, hmem, .fresh now⟩
  | renews hlive hi hfind =>
    obtain hold | rfl := List.mem_or_eq_of_mem_set hrecord
    · exact h record hold
    · exact ⟨incoming, hmem, .renewed now _⟩

theorem AllCached.merge {answers records incoming : List DiscoveryRecord}
    (h : AllCached answers records) (hmem : ∀ answer ∈ incoming, answer ∈ answers) (now : Int) :
    AllCached answers (DiscoveryCache.merge records incoming now) := by
  induction incoming generalizing records with
  | nil => exact h
  | cons answer incoming ih =>
    refine ih (h.turn (hmem answer List.mem_cons_self)
      (DiscoveryCache.mergeRecord_cases now records answer)) ?_
    exact fun other hother => hmem other (List.mem_cons_of_mem _ hother)

/-- The answers that calls of the cache bring. -/
def answersOf (calls : List DiscoveryCache.Call) : List DiscoveryRecord :=
  calls.flatMap fun
    | .merge incoming _ => incoming
    | .expire _ => []

/-- **What is cached is an answer.**  After any calls, every record of the cache is what one of the
answers was stored as. -/
theorem allCached_after (calls : List DiscoveryCache.Call) :
    AllCached (answersOf calls) (DiscoveryCache.after calls) := by
  have key : ∀ (answers records : List DiscoveryRecord), AllCached answers records →
      (∀ answer ∈ answersOf calls, answer ∈ answers) →
      AllCached answers (calls.foldl DiscoveryCache.Call.apply records) := by
    induction calls with
    | nil => exact fun _ _ h _ => h
    | cons call calls ih =>
      intro answers records h hmem
      refine ih answers _ ?_ fun answer hanswer => hmem answer ?_
      · cases call with
        | merge incoming now =>
          exact h.merge (fun answer hanswer => hmem answer
            (List.mem_flatMap.2 ⟨_, List.mem_cons_self, hanswer⟩)) now
        | expire now =>
          intro record hrecord
          obtain ⟨old, hold, rfl⟩ := List.mem_map.1 hrecord
          obtain ⟨answer, hanswer, hcached⟩ := h old hold
          exact ⟨answer, hanswer, hcached.expired now⟩
      · obtain ⟨other, hother, hin⟩ := List.mem_flatMap.1 hanswer
        exact List.mem_flatMap.2 ⟨other, List.mem_cons_of_mem _ hother, hin⟩
  exact key _ [] (fun record hrecord => by cases hrecord) fun answer hanswer => hanswer

/-! ### Whole names -/

/-- A label as DNS has it: one to 63 bytes, any bytes. -/
def IsDnsLabel (label : Bytes) : Prop := 0 < label.length ∧ label.length ≤ 63

instance decidableIsDnsLabel (label : Bytes) : Decidable (IsDnsLabel label) :=
  inferInstanceAs (Decidable (0 < label.length ∧ label.length ≤ 63))

section

variable (inetNtop6 : Bytes → Bytes)

/-- A receiver that is read of a packet that announces the label, whatever was known before. -/
def IsAnswer (label : Bytes) (answer : DiscoveryRecord) : Prop :=
  ∃ (data : Bytes) (found : Found), Announces data label ∧
    (parseResponse inetNtop6 data found)[instanceOf label]? = some answer

/-- An answer without an id does not match what is cached of another. -/
def Unmatched (answer other : DiscoveryRecord) : Prop :=
  answer.id = [] → ∀ cached, CachedAs other cached → belongs answer cached = false

/-- Two services keep their names apart: the instance of each is its label, and they share neither
an instance nor, without an id, a record of the cache. -/
structure KeepsNames (first second : Bytes) : Prop where
  whole_first : ∀ answer, IsAnswer inetNtop6 first answer → answer.instanceName = first
  whole_second : ∀ answer, IsAnswer inetNtop6 second answer → answer.instanceName = second
  apart : first ≠ second → ∀ x y, IsAnswer inetNtop6 first x → IsAnswer inetNtop6 second y →
    x.instanceName ≠ y.instanceName ∧ Unmatched x y ∧ Unmatched y x

/-- **The instance of an announced label.** -/
theorem answer_of_announces {data label : Bytes} (h : Announces data label) (found : Found) :
    ∃ answer, (parseResponse inetNtop6 data found)[instanceOf label]? = some answer ∧
      answer.instanceName = firstLabel label := by
  obtain ⟨answer, hanswer, hinstance, -⟩ :=
    called_parseResponse inetNtop6 (entry_of_announces inetNtop6 h) found
  exact ⟨answer, hanswer, hinstance.trans (firstLabel_instanceOf label)⟩

theorem IsAnswer.instanceName_eq {label : Bytes} {answer : DiscoveryRecord}
    (h : IsAnswer inetNtop6 label answer) : answer.instanceName = firstLabel label := by
  obtain ⟨data, found, hannounces, hanswer⟩ := h
  obtain ⟨other, hother, hinstance⟩ := answer_of_announces inetNtop6 hannounces found
  rw [hanswer, Option.some.injEq] at hother
  rw [hother, hinstance]

/-- Another instance is not matched. -/
theorem unmatched_of_ne {x y : DiscoveryRecord} (h : x.instanceName ≠ y.instanceName) :
    Unmatched x y := by
  intro hid cached hcached
  have hother : cached.instanceName ≠ x.instanceName := by
    rw [hcached.instanceName_eq]
    exact h.symm
  simp [belongs, hid, hother]

/-! ### An announcement of every label -/

/-- The full name of a label under the service. -/
def serviceName {label : Bytes} (h : IsDnsLabel label) : WireName where
  labels := label :: serviceLabels
  sizes := by
    intro other hmem
    obtain rfl | hservice := List.mem_cons.1 hmem
    · exact ⟨h.1, Nat.lt_of_le_of_lt h.2 (by decide)⟩
    · exact ⟨(isLabel_service other hservice).pos,
        Nat.lt_of_le_of_lt (isLabel_service other hservice).le (by decide)⟩

theorem serviceName_length {label : Bytes} (h : IsDnsLabel label) :
    (RData.ptr (serviceName h)).bytes.length < 2 ^ 16 := by
  show (wire (label :: serviceLabels)).length < 2 ^ 16
  have hservice : (wire serviceLabels).length = 25 := by decide
  have hle := h.2
  rw [Labels.wire_cons, List.length_cons, List.length_append, hservice]
  omega

/-- The PTR record that announces a label. -/
def announcing {label : Bytes} (h : IsDnsLabel label) (ttl : UInt32) : ResourceRecord where
  owner := nameOf serviceLabels isLabel_service
  recordClass := 1
  ttl := ttl
  rdata := .ptr (serviceName h)
  size := serviceName_length h

theorem oneAnswer_count :
    (1 : UInt16).toNat + (0 : UInt16).toNat + (0 : UInt16).toNat = 1 := by decide

/-- A packet that announces a label, or takes leave with a TTL of zero. -/
def announcement {label : Bytes} (h : IsDnsLabel label) (ttl : UInt32) : Packet where
  id := 0
  flags := 0x8400
  answers := 1
  authorities := 0
  additionals := 0
  questions := []
  records := [announcing h ttl]
  questions_lt := noQuestions_lt
  counts := oneAnswer_count

theorem announces_announcement {label : Bytes} (h : IsDnsLabel label) (ttl : UInt32) :
    Announces (announcement h ttl).bytes label := by
  obtain ⟨hlength, hcounts, pos, hquestions, hrecords⟩ := (announcement h ttl).reads []
  rw [List.append_nil] at hlength hcounts hquestions hrecords
  rw [show (announcement h ttl).records = [announcing h ttl] from rfl, List.flatMap_cons,
    List.append_assoc] at hrecords
  obtain ⟨howner, hroom, htype, -, hsize, hrdata⟩ := (announcing h ttl).reads hrecords
  refine ⟨⟨pos, kTypePtr, pos + (announcing h ttl).owner.bytes.length + 10,
    (announcing h ttl).rdata.bytes.length⟩, ?_, _, rfl, ?_, spells_wire ?_ hrdata⟩
  · rw [placesOf, if_neg (Nat.not_lt.2 hlength), hcounts, hquestions]
    show _ ∈ placesFrom _ 1 pos
    rw [placesFrom, howner]
    dsimp only
    rw [if_neg (by omega), hsize, if_neg (by omega), htype]
    exact List.mem_singleton.2 rfl
  · rw [readName_wire (serviceName h) hrdata]
    exact Option.some_ne_none _
  · intro other hmem
    obtain rfl | hservice := List.mem_cons.1 hmem
    · exact h
    · exact ⟨(isLabel_service other hservice).pos, (isLabel_service other hservice).le⟩

theorem exists_isAnswer {label : Bytes} (h : IsDnsLabel label) :
    ∃ answer, IsAnswer inetNtop6 label answer := by
  obtain ⟨answer, hanswer, -⟩ :=
    answer_of_announces inetNtop6 (announces_announcement h 120) ∅
  exact ⟨answer, _, ∅, announces_announcement h 120, hanswer⟩

/-- **An advertised instance keeps its whole name exactly if no dot is in it.**  A packet that
announces a label is read as a receiver whose instance is the label if and only if the label has no
dot; and two services keep their names apart if and only if neither label has one. -/
theorem instance_whole_iff :
    (∀ (data label : Bytes) (found : Found), Announces data label →
      ∃ answer, (parseResponse inetNtop6 data found)[instanceOf label]? = some answer ∧
        (answer.instanceName = label ↔ 0x2E ∉ label)) ∧
    ∀ first second, IsDnsLabel first → IsDnsLabel second →
      (KeepsNames inetNtop6 first second ↔ 0x2E ∉ first ∧ 0x2E ∉ second) := by
  refine ⟨fun data label found hannounces => ?_, fun first second hfirst hsecond => ⟨?_, ?_⟩⟩
  · obtain ⟨answer, hanswer, hinstance⟩ := answer_of_announces inetNtop6 hannounces found
    refine ⟨answer, hanswer, ?_⟩
    rw [hinstance]
    exact firstLabel_eq_self_iff label
  · intro h
    obtain ⟨x, hx⟩ := exists_isAnswer inetNtop6 hfirst
    obtain ⟨y, hy⟩ := exists_isAnswer inetNtop6 hsecond
    refine ⟨(firstLabel_eq_self_iff first).1 ?_, (firstLabel_eq_self_iff second).1 ?_⟩
    · rw [← hx.instanceName_eq, h.whole_first x hx]
    · rw [← hy.instanceName_eq, h.whole_second y hy]
  · rintro ⟨hdot, hdot'⟩
    have hself := (firstLabel_eq_self_iff first).2 hdot
    have hself' := (firstLabel_eq_self_iff second).2 hdot'
    refine ⟨fun answer h => h.instanceName_eq.trans hself,
      fun answer h => h.instanceName_eq.trans hself', fun hne x y hx hy => ?_⟩
    have hapart : x.instanceName ≠ y.instanceName := by
      rw [hx.instanceName_eq, hy.instanceName_eq, hself, hself']
      exact hne
    exact ⟨hapart, unmatched_of_ne hapart, unmatched_of_ne hapart.symm⟩

end

/-- The receivers of a packet, read on its own. -/
def receiversOf (packet : Packet) : List DiscoveryRecord :=
  (parseResponse (fun _ => []) packet.bytes ∅).toList.map Prod.snd

/-- Two iPads whose names have a dot: both are called by what stands in front of it, and the goodbye
of the one takes the other offline. -/
theorem instance_whole_fails_dotted :
    let labelA := ascii "iPad.A"
    let labelB := ascii "iPad.B"
    let arriving := announcement (show IsDnsLabel labelA by decide) 120
    let leaving := announcement (show IsDnsLabel labelB by decide) 0
    Announces arriving.bytes labelA ∧ Announces leaving.bytes labelB ∧
      (receiversOf arriving).map (·.instanceName) = [ascii "iPad"] ∧
      (receiversOf leaving).map (·.instanceName) = [ascii "iPad"] ∧
      (DiscoveryCache.merge [] (receiversOf arriving) 1).map (·.online) = [true] ∧
      (DiscoveryCache.merge (DiscoveryCache.merge [] (receiversOf arriving) 1)
        (receiversOf leaving) 2).map (·.online) = [false] ∧
      ¬KeepsNames (fun _ => []) labelA labelB := by
  refine ⟨announces_announcement _ 120, announces_announcement _ 0, by decide +kernel,
    by decide +kernel, by decide +kernel, by decide +kernel, fun h => ?_⟩
  obtain ⟨answer, hanswer⟩ :=
    exists_isAnswer (fun _ => []) (show IsDnsLabel (ascii "iPad.A") by decide)
  have hwhole := h.whole_first answer hanswer
  rw [hanswer.instanceName_eq] at hwhole
  exact absurd hwhole (by decide)

end SecondDisplay.Mdns
