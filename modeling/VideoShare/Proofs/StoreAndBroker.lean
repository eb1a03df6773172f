import VideoShare.Proofs.Outcome

/-!
# What calls do to the object store and the broker

Each operation on the object store or the broker that answered had exactly its effect, and whether it answered or not it leaves
the tables alone; a folder that was removed holds nothing any more, and every other object is where it was.

Messages are only ever added. `pushAll` adds a list of them, each to its queue, and what a call pushed is such a list.
-/

namespace VideoShare

/-- The store without the objects whose keys meet a condition. -/
def ObjectStore.eraseAll (s : ObjectStore) (p : String → Bool) : ObjectStore :=
  { s with objects := s.objects.filter fun o => !p o.1 }

/-- The queues with messages pushed to them, one after another. -/
def pushAll (pushes : List (String × String)) (queues : List (String × List String)) : List (String × List String) :=
  pushes.foldl (fun queues p => pushMessage p.1 p.2 queues) queues

namespace ObjectStore

theorem eraseAll_eraseAll (s : ObjectStore) (p q : String → Bool) :
    (s.eraseAll p).eraseAll q = s.eraseAll fun key => p key || q key := by
  simp only [eraseAll, List.filter_filter, Bool.not_or, Bool.and_comm]

/-- Removing no object changes nothing. -/
theorem eraseAll_of_false {s : ObjectStore} {p : String → Bool} (h : ∀ o ∈ s.objects, p o.1 = false) :
    s.eraseAll p = s := by
  have : s.objects.filter (fun o => !p o.1) = s.objects :=
    List.filter_eq_self.mpr fun o ho => by simp [h o ho]
  simp only [eraseAll, this]

/-- Conditions that agree on the keys of a store remove the same objects. -/
theorem eraseAll_congr {s : ObjectStore} {p q : String → Bool} (h : ∀ o ∈ s.objects, p o.1 = q o.1) :
    s.eraseAll p = s.eraseAll q := by
  simp only [eraseAll, mk.injEq, and_true]
  exact List.filter_congr fun o ho => by rw [h o ho]

/-- The keys listed under a path are those that begin with it. -/
theorem mem_keysUnder {s : ObjectStore} {path key : String} :
    key ∈ s.keysUnder path ↔ (∃ o ∈ s.objects, o.1 = key) ∧ Text.startsWith key path = true := by
  simp [keysUnder, List.mem_mergeSort]

/-- What was put under a key is found there. -/
theorem content?_insert_self (s : ObjectStore) (key content : String) :
    (s.insert key content).content? key = some content := by
  have h : (s.objects.filter (·.1 != key)).lookup key = none := by
    rw [List.lookup_eq_none_iff]
    intro o ho
    simpa [bne_comm] using (List.mem_filter.mp ho).2
  simp [content?, insert, List.lookup_append, h]

/-- Putting an object under one key leaves those under the others. -/
theorem content?_insert_of_ne (s : ObjectStore) {key key' : String} (content : String) (h : key' ≠ key) :
    (s.insert key content).content? key' = s.content? key' := by
  have hne : (key' == key) = false := by simpa using h
  have h1 : List.lookup key' [(key, content)] = none := by simp [List.lookup_cons, hne]
  simp only [content?, insert, List.lookup_append, h1, Option.or_none]
  induction s.objects with
  | nil => rfl
  | cons o os ih =>
    by_cases ho : o.1 = key
    · rw [List.filter_cons_of_neg (by simp [ho]), ih, List.lookup_cons, ho, hne]
    · rw [List.filter_cons_of_pos (by simp [ho]), List.lookup_cons, List.lookup_cons, ih]

/-- Under the key of an object that was put lies what was put, and under the others what was there. -/
theorem content?_insert (s : ObjectStore) (key content key' : String) :
    (s.insert key content).content? key' = if key' = key then some content else s.content? key' := by
  split
  · rename_i hkey
    rw [hkey, content?_insert_self]
  · rename_i hkey
    exact content?_insert_of_ne s content hkey

/-- Without the objects whose keys meet a condition nothing is found under these keys, and what was found before under the others. -/
theorem content?_eraseAll (s : ObjectStore) (p : String → Bool) (key : String) :
    (s.eraseAll p).content? key = if p key then none else s.content? key := by
  rw [content?, content?, eraseAll]
  induction s.objects with
  | nil => exact (ite_self _).symm
  | cons o os ih =>
    by_cases ho : key = o.1
    · subst ho
      cases hp : p o.1 with
      | false => rw [List.filter_cons_of_pos (by simp [hp]), List.lookup_cons_self, if_neg Bool.false_ne_true, List.lookup_cons_self]
      | true => rw [List.filter_cons_of_neg (by simp [hp]), ih, hp, if_pos rfl, if_pos rfl]
    · have hskip : List.lookup key (o :: os) = os.lookup key := by rw [List.lookup_cons, beq_false_of_ne ho]
      rw [hskip, ← ih]
      cases hp : p o.1 with
      | false => rw [List.filter_cons_of_pos (by simp [hp]), List.lookup_cons, beq_false_of_ne ho]
      | true => rw [List.filter_cons_of_neg (by simp [hp])]

end ObjectStore

namespace Service

variable {α γ : Type}

/-! ## The object store -/

/-- An operation on the store answers when it is not struck and its effect answers. -/
theorem storeStep_eq_ok {operation : StoreOperation} {key : String}
    {effect : ObjectStore → Except Failure α × ObjectStore} {w w' : World} {a : α} :
    storeStep operation key effect w = (.ok a, w') ↔
      (strike operation key w.store.rules).1 = none ∧
        ∃ store, effect w.store = (.ok a, store) ∧ w' = { w with store := store } := by
  unfold storeStep
  rcases strike operation key w.store.rules with ⟨_ | fault, rules⟩
  · rcases effect w.store with ⟨r, store⟩
    simp only [Prod.mk.injEq, true_and]
    constructor
    · rintro ⟨rfl, rfl⟩
      exact ⟨store, ⟨rfl, rfl⟩, rfl⟩
    · rintro ⟨_, ⟨rfl, rfl⟩, rfl⟩
      exact ⟨rfl, rfl⟩
  · simp

/-- An object is put into the store when the store is not struck. -/
theorem putObject_eq_ok {key content : String} {w w' : World} :
    putObject key content w = (.ok (), w') ↔
      (strike .put key w.store.rules).1 = none ∧ w' = { w with store := w.store.insert key content } := by
  rw [putObject, storeStep_eq_ok]
  simp [eq_comm]

theorem removeObject_eq_ok {key : String} {w w' : World} (h : removeObject key w = (.ok (), w')) :
    w' = { w with store := w.store.erase key } := by
  obtain ⟨-, store, he, rfl⟩ := storeStep_eq_ok.mp h
  simp only [Prod.mk.injEq] at he
  rw [← he.2]

theorem listObjects_eq_ok {path : String} {w w' : World} {keys : List String}
    (h : listObjects path w = (.ok keys, w')) : keys = w.store.keysUnder path ∧ w' = w := by
  obtain ⟨-, store, he, rfl⟩ := storeStep_eq_ok.mp h
  simp only [Prod.mk.injEq, Except.ok.injEq] at he
  obtain ⟨rfl, rfl⟩ := he
  exact ⟨rfl, rfl⟩

/-- Removing objects one by one, when every removal answered, removes them all. -/
theorem forEach_removeObject_eq_ok {keys : List String} {w w' : World}
    (h : forEach removeObject keys w = (.ok (), w')) :
    w' = { w with store := w.store.eraseAll fun key => keys.contains key } := by
  induction keys generalizing w with
  | nil =>
    rw [(pure_eq_ok.mp h).2, ObjectStore.eraseAll_of_false (by simp)]
  | cons key keys ih =>
    obtain ⟨_, w₁, h₁, h₂⟩ := bind_eq_ok.mp h
    have he : w.store.erase key = w.store.eraseAll fun k => k == key := by
      simp only [ObjectStore.erase, ObjectStore.eraseAll, bne]
    rw [removeObject_eq_ok h₁, he] at h₂
    rw [ih h₂, ObjectStore.eraseAll_eraseAll]
    simp only [List.contains_cons]

/-- A folder that was removed is gone, and nothing else is. -/
theorem removeFolder_eq_ok {path : String} {w w' : World} (h : removeFolder path w = (.ok (), w')) :
    w' = { w with store := w.store.eraseAll fun key => Text.startsWith key path } := by
  obtain ⟨keys, w₁, h₁, h₂⟩ := bind_eq_ok.mp h
  obtain ⟨rfl, rfl⟩ := listObjects_eq_ok h₁
  rw [forEach_removeObject_eq_ok h₂]
  congr 1
  refine ObjectStore.eraseAll_congr fun o ho => ?_
  have hmem : o.1 ∈ w₁.store.keysUnder path ↔ Text.startsWith o.1 path = true :=
    ObjectStore.mem_keysUnder.trans ⟨fun hk => hk.2, fun hp => ⟨⟨o, ho, rfl⟩, hp⟩⟩
  rw [Bool.eq_iff_iff, List.contains_iff_mem, hmem]

/-- Removing folders one by one, when every removal answered, removes whatever lies in one of them. -/
theorem forEach_removeFolder_eq_ok {folder : α → String} {items : List α} {w w' : World}
    (h : forEach (fun a => removeFolder (folder a)) items w = (.ok (), w')) :
    w' = { w with store := w.store.eraseAll fun key => items.any fun a => Text.startsWith key (folder a) } := by
  induction items generalizing w with
  | nil =>
    rw [(pure_eq_ok.mp h).2, ObjectStore.eraseAll_of_false (by simp)]
  | cons a items ih =>
    obtain ⟨_, w₁, h₁, h₂⟩ := bind_eq_ok.mp h
    rw [removeFolder_eq_ok h₁] at h₂
    rw [ih h₂, ObjectStore.eraseAll_eraseAll]
    simp only [List.any_cons]

/-- An operation on the store changes nothing beside the store. -/
theorem keeps_storeStep {f : World → γ} (hf : ∀ w store, f { w with store := store } = f w) (operation : StoreOperation)
    (key : String) (effect : ObjectStore → Except Failure α × ObjectStore) :
    Keeps f (storeStep operation key effect) := by
  intro w
  unfold storeStep
  split <;> exact hf w _

theorem keeps_putObject {f : World → γ} (hf : ∀ w store, f { w with store := store } = f w) (key content : String) :
    Keeps f (putObject key content) :=
  keeps_storeStep hf _ _ _

theorem keeps_removeFolder {f : World → γ} (hf : ∀ w store, f { w with store := store } = f w) (path : String) :
    Keeps f (removeFolder path) :=
  Keeps.bind (keeps_storeStep hf _ _ _) fun _ => Keeps.forEach fun _ _ => keeps_storeStep hf _ _ _

/-! ## The broker -/

/-- A message is pushed to a queue that takes messages, and stands at its end. -/
theorem push_eq_ok {queue message : String} {w w' : World} :
    push queue message w = (.ok (), w') ↔
      queue ∉ w.broker.down ∧
        w' = { w with broker := { w.broker with queues := pushMessage queue message w.broker.queues } } := by
  unfold push
  by_cases hdown : queue ∈ w.broker.down <;> simp [hdown, eq_comm]

/-- Pushing a message fails when its queue takes none, and changes nothing. -/
theorem push_eq_error {queue message : String} {w w' : World} {e : Failure} :
    push queue message w = (.error e, w') ↔ queue ∈ w.broker.down ∧ e = .brokerDown ∧ w' = w := by
  unfold push
  by_cases hdown : queue ∈ w.broker.down <;> simp [hdown, eq_comm]

/-- A call that reads the source of identifiers and the broker only keeps what does not depend on them. -/
theorem keeps_push {f : World → γ} (hf : ∀ w broker, f { w with broker := broker } = f w) (queue message : String) :
    Keeps f (push queue message) := by
  intro w
  unfold push
  split
  · rfl
  · exact hf w _

theorem keeps_awaitReply {f : World → γ} (hf : ∀ w broker, f { w with broker := broker } = f w) (seconds : Int) :
    Keeps f (awaitReply seconds) := by
  intro w
  unfold awaitReply
  rcases w.broker.nextReply with ⟨_ | reply, broker⟩
  · exact hf w _
  · by_cases h : isAffirmative reply = true <;> simp only [h, if_true, if_false, Bool.false_eq_true] <;> exact hf w _

theorem keeps_submit {f : World → γ} (hb : ∀ w broker, f { w with broker := broker } = f w)
    (hs : ∀ w serial, f { w with serial := serial } = f w) (queue path : String) : Keeps f (submit queue path) :=
  Keeps.bind (fun w => hs w _) fun _ => Keeps.bind (keeps_push hb _ _) fun _ => Keeps.pure _

theorem keeps_process {f : World → γ} (hb : ∀ w broker, f { w with broker := broker } = f w)
    (hs : ∀ w serial, f { w with serial := serial } = f w) (queue path : String) (seconds : Int) :
    Keeps f (process queue path seconds) :=
  Keeps.bind (keeps_submit hb hs _ _) fun _ => keeps_awaitReply hb _

/-- A request is submitted to a queue that takes messages, and names the reply queue of the next identifier. -/
theorem submit_eq_ok {queue path replyTo : String} {w w' : World} :
    submit queue path w = (.ok replyTo, w') ↔
      queue ∉ w.broker.down ∧ replyTo = replyQueueStart ++ identifier (w.serial + 1) ∧
        w' = { w with
          serial := w.serial + 1
          broker := { w.broker with queues := pushMessage queue (processingRequest path replyTo) w.broker.queues } } := by
  constructor
  · intro h
    obtain ⟨id, w₁, hid, hrest⟩ := bind_eq_ok.mp h
    obtain ⟨_, w₂, hpush, hpure⟩ := bind_eq_ok.mp hrest
    simp only [freshIdentifier, Prod.mk.injEq, Except.ok.injEq] at hid
    obtain ⟨rfl, rfl⟩ := hid
    obtain ⟨rfl, rfl⟩ := pure_eq_ok.mp hpure
    obtain ⟨hdown, hw⟩ := push_eq_ok.mp hpush
    exact ⟨hdown, rfl, hw⟩
  · rintro ⟨hdown, rfl, rfl⟩
    refine bind_eq_ok.mpr ⟨_, _, rfl, ?_⟩
    exact bind_eq_ok.mpr ⟨(), _, push_eq_ok.mpr ⟨hdown, rfl⟩, rfl⟩

/-- A request that was not submitted has used an identifier up and changed nothing else. -/
theorem submit_eq_error {queue path : String} {w w' : World} {e : Failure} (h : submit queue path w = (.error e, w')) :
    w' = { w with serial := w.serial + 1 } := by
  rcases bind_eq_error.mp h with hid | ⟨id, w₁, hid, hrest⟩
  · simp [freshIdentifier] at hid
  · simp only [freshIdentifier, Prod.mk.injEq, Except.ok.injEq] at hid
    obtain ⟨rfl, rfl⟩ := hid
    rcases bind_eq_error.mp hrest with hpush | ⟨_, w₂, -, hpure⟩
    · exact (push_eq_error.mp hpush).2.2
    · simp at hpure

/-- The processing service has done its work. -/
def Affirmative (reply : Reply) : Prop := ∃ text, reply = some text ∧ isAffirmative text = true

/-- Waiting for a reply answers when the next reply is affirmative, as it is when none is left. -/
theorem awaitReply_eq_ok {seconds : Int} {w w' : World} :
    awaitReply seconds w = (.ok (), w') ↔
      (∀ reply ∈ w.broker.replies.take 1, Affirmative reply) ∧
        w' = { w with broker := { w.broker with replies := w.broker.replies.drop 1 } } := by
  obtain ⟨db, store, ⟨queues, replies, down⟩, serial, now, staleLikes⟩ := w
  have htrue : isAffirmative "true" = true := by decide
  rcases replies with _ | ⟨_ | text, rest⟩
  · simp only [awaitReply, Broker.nextReply, htrue, if_true, Prod.mk.injEq, true_and, List.take_nil, List.drop_nil,
      List.not_mem_nil, false_implies, implies_true]
    exact eq_comm
  · simp [awaitReply, Broker.nextReply, Affirmative]
  · by_cases hyes : isAffirmative text = true
    · simp only [awaitReply, Broker.nextReply, hyes, if_true, Prod.mk.injEq, true_and, List.take_succ_cons, List.take_zero,
        List.mem_singleton, forall_eq, Affirmative, Option.some.injEq, exists_eq_left', List.drop_succ_cons, List.drop_zero]
      exact eq_comm
    · simp [awaitReply, Broker.nextReply, Affirmative, hyes]

/-- Waiting for a reply leaves the messages where they are. -/
theorem keeps_queues_awaitReply (seconds : Int) : Keeps (fun w => w.broker.queues) (awaitReply seconds) := by
  intro w
  unfold awaitReply Broker.nextReply
  rcases w.broker.replies with _ | ⟨_ | text, rest⟩
  · simp only
    split <;> rfl
  · rfl
  · simp only
    split <;> rfl

end Service

end VideoShare
