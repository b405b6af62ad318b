import SqlLens.Store.Basic

/-!
What a cache answers, told from what was done before.

What is done to a cache is noted, the latest first (`CacheRun`). A table is found in it exactly if the latest deed under
its key was to store it, not longer ago than its time to live (`Reflects`). The tables behind the cache may change at
any time.
-/

namespace SqlLens

def Backing.answer (backing : Backing) (files : Files) (path : TablePath) : Except FetchError Table :=
  match backing with
  | .memory store => store.answer path
  | .snapshots folder => Snapshot.answer folder files path

/-- Fetches a table where the answer may take a while. -/
def Store.fetchSlowly (store : Store) (files : Files) (asked answered : Nat) (path : TablePath) :
    Except FetchError Table × Store :=
  match store.ask asked path with
  | (some table, store) => (.ok table, store)
  | (none, store) => store.answer files answered path

theorem Store.fetch_eq_fetchSlowly (store : Store) (files : Files) (now : Nat) (path : TablePath) :
    store.fetch files now path = store.fetchSlowly files now now path := rfl

/-! ### What is kept under a key -/

namespace Cache

variable {cache : Cache} {now : Nat} {path : TablePath} {key : String} {table : Table}

def kept? (cache : Cache) (key : String) : Option CacheEntry := cache.entries.lookup key

theorem kept_evict : (cache.evict path).kept? key = if key = path.canonical then none else cache.kept? key := by
  unfold kept? evict
  induction cache.entries with
  | nil => simp
  | cons entry rest ih => grind

theorem kept_insert : (cache.insert now path table).kept? key =
    if key = path.canonical then some ⟨table, now⟩ else cache.kept? key := by
  have evicted := @kept_evict cache path key
  grind [kept?, insert]

theorem get_eq_some_iff : (cache.get now path).1 = some table ↔
    ∃ since, cache.kept? path.canonical = some ⟨table, since⟩ ∧ now - since < cache.lifetime := by
  unfold get kept?
  cases cache.entries.lookup path.canonical with
  | none => simp
  | some entry =>
    obtain ⟨own, since⟩ := entry
    grind [isFresh]

theorem kept_get : (cache.get now path).2.kept? key =
    if key = path.canonical ∧ (cache.get now path).1 = none then none else cache.kept? key := by
  have evicted := @kept_evict cache path key
  grind [get, kept?]

theorem lifetime_get : (cache.get now path).2.lifetime = cache.lifetime := by
  grind [get, evict]

end Cache

/-! ### Calls and what they do -/

inductive Deed where
  | stored (key : String) (table : Table) (since : Nat)
  | removed (key : String)
  | cleared

def Deed.touches (key : String) : Deed → Bool
  | stored other _ _ | removed other => other = key
  | cleared => true

inductive CacheCall where
  | fetch (path : TablePath) (backing : Backing) (files : Files) (wait : Nat)
  | insert (path : TablePath) (table : Table)
  | evict (path : TablePath)
  | clear

namespace CacheCall

def key? : CacheCall → Option String
  | fetch path .. | insert path _ | evict path => some path.canonical
  | clear => none

def ends (now : Nat) : CacheCall → Nat
  | fetch _ _ _ wait => now + wait
  | _ => now

def cacheAfter (now : Nat) (cache : Cache) : CacheCall → Cache
  | fetch path backing files wait =>
    ((Store.mk backing (some cache)).fetchSlowly files now (now + wait) path).2.cache.getD cache
  | insert path table => cache.insert now path table
  | evict path => cache.evict path
  | clear => cache.clear

def deeds (now : Nat) (cache : Cache) : CacheCall → List Deed
  | fetch path backing files wait =>
    match (cache.get now path).1, backing.answer files path with
    | none, .ok table => [.stored path.canonical table (now + wait)]
    | _, _ => []
  | insert path table => [.stored path.canonical table now]
  | evict path => [.removed path.canonical]
  | clear => [.cleared]

end CacheCall

/-- A cache that was empty at first and calls one after another, with the time and what they did. -/
inductive CacheRun (lifetime : Nat) : Nat → List Deed → Cache → Prop where
  | start : CacheRun lifetime 0 [] (.empty lifetime)
  | call (call : CacheCall) (earlier : CacheRun lifetime time deeds cache) (later : time ≤ now) :
    CacheRun lifetime (call.ends now) (call.deeds now cache ++ deeds) (call.cacheAfter now cache)

section

variable {lifetime time now asked answered : Nat} {deeds : List Deed} {cache : Cache} {path : TablePath} {key : String}
  {backing : Backing} {files : Files}

theorem ask_eq : ((Store.mk backing (some cache)).ask asked path).1 = (cache.get asked path).1 := by
  dsimp only [Store.ask]
  cases (cache.get asked path).1 <;> rfl

theorem fetchSlowly_found (found : (cache.get asked path).1 = some table) :
    ((Store.mk backing (some cache)).fetchSlowly files asked answered path).1 = .ok table ∧
    ((Store.mk backing (some cache)).fetchSlowly files asked answered path).2.cache =
        some (cache.get asked path).2 := by
  simp [Store.fetchSlowly, Store.ask, found]

theorem fetchSlowly_missed (missed : (cache.get asked path).1 = none) :
    ((Store.mk backing (some cache)).fetchSlowly files asked answered path).1 = backing.answer files path ∧
    ((Store.mk backing (some cache)).fetchSlowly files asked answered path).2.cache =
      some (match backing.answer files path with
        | .ok table => (cache.get asked path).2.insert answered path table
        | .error _ => (cache.get asked path).2) := by
  have counted (store : MemoryStore) : { store with calls := store.calls + 1 }.answer path = store.answer path := rfl
  cases backing with
  | memory store =>
    simp only [Store.fetchSlowly, Store.ask, missed, Store.mapMemory, Store.answer, Backing.answer, counted]
    cases store.answer path <;> exact ⟨rfl, rfl⟩
  | snapshots folder =>
    simp only [Store.fetchSlowly, Store.ask, missed, Store.mapMemory, Store.answer, Backing.answer]
    cases Snapshot.answer folder files path <;> exact ⟨rfl, rfl⟩

theorem lifetime_after (call : CacheCall) : (call.cacheAfter now cache).lifetime = cache.lifetime := by
  cases call with
  | fetch path backing files wait =>
    cases found : (cache.get now path).1 with
    | some table => simp [CacheCall.cacheAfter, fetchSlowly_found found, Cache.lifetime_get]
    | none =>
      cases answer : backing.answer files path <;>
        simp [CacheCall.cacheAfter, fetchSlowly_missed found, answer, Cache.insert, Cache.lifetime_get]
  | insert | evict | clear => rfl

/-- What a call leaves under a key: what it stores there, nothing if it removes what is there, and otherwise what was
there or, if that does not count any more, perhaps nothing. -/
theorem kept_after (call : CacheCall) (key : String) :
    match (call.deeds now cache).find? (·.touches key) with
    | some (.stored other table since) => other = key ∧ (call.cacheAfter now cache).kept? key = some ⟨table, since⟩
    | some _ => (call.cacheAfter now cache).kept? key = none
    | none => (call.cacheAfter now cache).kept? key = cache.kept? key ∨
      (call.cacheAfter now cache).kept? key = none ∧
        ∀ table since, cache.kept? key = some ⟨table, since⟩ → cache.lifetime ≤ now - since := by
  cases call with
  | fetch path backing files wait =>
    cases found : (cache.get now path).1 with
    | some table => simp [CacheCall.deeds, CacheCall.cacheAfter, found, fetchSlowly_found found, Cache.kept_get]
    | none =>
      have stale := fun table => mt (@Cache.get_eq_some_iff cache now path table).mpr (by simp [found])
      cases answer : backing.answer files path <;>
        simp only [CacheCall.deeds, CacheCall.cacheAfter, found, fetchSlowly_missed found, answer] <;>
        grind [Cache.kept_get, Cache.kept_insert, Deed.touches]
  | insert path table => grind [CacheCall.deeds, CacheCall.cacheAfter, Cache.kept_insert, Deed.touches]
  | evict path => grind [CacheCall.deeds, CacheCall.cacheAfter, Cache.kept_evict, Deed.touches]
  | clear => rfl

/-- The cache has what was stored last under each key, as long as it counts, and nothing else. -/
structure Reflects (lifetime time : Nat) (deeds : List Deed) (cache : Cache) : Prop where
  lasts : cache.lifetime = lifetime
  stored : ∀ {key table since}, cache.kept? key = some ⟨table, since⟩ →
    deeds.find? (·.touches key) = some (.stored key table since)
  present : ∀ {key table since}, deeds.find? (·.touches key) = some (.stored key table since) →
    time - since < lifetime →
    cache.kept? key = some ⟨table, since⟩

theorem Reflects.step (reflects : Reflects lifetime time deeds cache) (later : time ≤ now) (call : CacheCall) :
    Reflects lifetime (call.ends now) (call.deeds now cache ++ deeds) (call.cacheAfter now cache) := by
  have ends : now ≤ call.ends now := by cases call <;> simp [CacheCall.ends]
  refine ⟨(lifetime_after call).trans reflects.lasts, fun {key table since} there => ?_,
    fun {key table since} last fresh => ?_⟩
  · have effect := @kept_after now cache call key
    have earlier := @reflects.stored key table since
    rw [List.find?_append]
    grind
  · have effect := @kept_after now cache call key
    have earlier := @reflects.present key table since
    have lasts := reflects.lasts
    rw [List.find?_append] at last
    grind

theorem CacheRun.reflects (run : CacheRun lifetime time deeds cache) : Reflects lifetime time deeds cache := by
  induction run with
  | start => exact { lasts := rfl, stored := fun there => (by cases there), present := fun last _ => (by cases last) }
  | call call _ later ih => exact ih.step later call

theorem fetchSlowly_result : ((Store.mk backing (some cache)).fetchSlowly files asked answered path).1 =
    match (cache.get asked path).1 with
    | some table => .ok table
    | none => backing.answer files path := by
  cases found : (cache.get asked path).1 with
  | some table => exact (fetchSlowly_found found).1
  | none => exact (fetchSlowly_missed found).1

theorem get_after (call : CacheCall) (about : call.key? = some key) (other : key ≠ path.canonical)
    (earlier : time ≤ now) :
    ((call.cacheAfter time cache).get now path).1 = (cache.get now path).1 := by
  have effect := @kept_after time cache call path.canonical
  have untouched : (call.deeds time cache).find? (·.touches path.canonical) = none := by
    cases call <;> grind [CacheCall.deeds, CacheCall.key?, Deed.touches]
  rw [untouched] at effect
  ext table
  rw [Cache.get_eq_some_iff, Cache.get_eq_some_iff, lifetime_after]
  grind

/-- The latest deed under the key was to store the table. -/
def IsKept (deeds : List Deed) (key : String) (table : Table) (since : Nat) : Prop :=
  deeds.find? (·.touches key) = some (.stored key table since)

theorem CacheRun.get_eq_some_iff (run : CacheRun lifetime time deeds cache) (later : time ≤ now) :
    (cache.get now path).1 = some table ↔ ∃ since, IsKept deeds path.canonical table since ∧
        now - since < lifetime := by
  obtain ⟨lasts, stored, present⟩ := run.reflects
  rw [Cache.get_eq_some_iff, lasts]
  constructor
  · rintro ⟨since, there, fresh⟩
    exact ⟨since, stored there, fresh⟩
  · rintro ⟨since, kept, fresh⟩
    exact ⟨since, present kept (by omega), fresh⟩

/-- Whatever was done to a cache before, a fetch comes to the answer that the tables behind the cache give when they are
asked, or to the table that was stored last under its key, if its time to live is not over. If there is no such table,
they are asked. A failure is their answer and leaves nothing behind. What is done under other keys makes no difference.
-/
theorem cache_transparent {store : Store} (cached : store.cache = some cache) (run : CacheRun lifetime time deeds cache)
    (later : time ≤ now) (files : Files) (answered : Nat) (path : TablePath) :
    (∀ table, (store.fetchSlowly files now answered path).1 = .ok table →
      (store.ask now path).1 = none ∧ store.backing.answer files path = .ok table ∨
        ∃ since, IsKept deeds path.canonical table since ∧ now - since < lifetime) ∧
    ((¬∃ table since, IsKept deeds path.canonical table since ∧ now - since < lifetime) →
      (store.ask now path).1 = none) ∧
    (∀ error, (store.fetchSlowly files now answered path).1 = .error error →
      (store.ask now path).1 = none ∧ store.backing.answer files path = .error error ∧
        ∃ after, (store.fetchSlowly files now answered path).2.cache = some after ∧ after.kept? path.canonical = none) ∧
    (∀ memory, store.backing = .memory memory →
      (store.ask now path).2.calls = memory.calls + if (store.ask now path).1.isNone then 1 else 0) ∧
    ∀ (call : CacheCall) key moment, call.key? = some key → key ≠ path.canonical → moment ≤ now →
      ({ store with cache := some (call.cacheAfter moment cache) }.fetchSlowly files now answered path).1 =
        (store.fetchSlowly files now answered path).1 := by
  obtain ⟨backing, _⟩ := store
  obtain rfl := cached
  have kept (table : Table) := @CacheRun.get_eq_some_iff _ _ now _ _ path table run later
  simp only [ask_eq, fetchSlowly_result]
  refine ⟨fun table fetched => ?_, fun none => ?_, fun error failed => ?_, ?_,
    fun call key moment about other earlier => ?_⟩
  · cases found : (cache.get now path).1 with
    | some own =>
      rw [found] at fetched
      cases fetched
      exact .inr ((kept table).mp found)
    | none =>
      rw [found] at fetched
      exact .inl ⟨rfl, fetched⟩
  · refine Option.eq_none_iff_forall_ne_some.mpr fun table found => none ⟨table, (kept table).mp found⟩
  · cases found : (cache.get now path).1 with
    | some own =>
      rw [found] at failed
      cases failed
    | none =>
      rw [found] at failed
      refine ⟨rfl, failed, _, (fetchSlowly_missed found).2, ?_⟩
      rw [show backing.answer files path = _ from failed, Cache.kept_get, if_pos ⟨rfl, found⟩]
  · rintro memory rfl
    dsimp only [Store.ask]
    cases (cache.get now path).1 <;> rfl
  · rw [get_after call about other earlier]

private def usersPath : TablePath := ⟨"proj", "ds", "users"⟩

private def cachedUsers : Store :=
  ⟨.memory .empty, some ((CacheCall.insert usersPath (.of "proj:ds.users" .epoch [])).cacheAfter 2 (.empty 5))⟩

theorem stored_table_fetched : cachedUsers.ask 4 usersPath = (some (.of "proj:ds.users" .epoch []), cachedUsers) ∧
    ∃ since, IsKept [.stored usersPath.canonical (.of "proj:ds.users" .epoch []) 2] usersPath.canonical
      (.of "proj:ds.users" .epoch []) since ∧ 4 - since < 5 := by
  have run : CacheRun 5 2 _ _ := .call (.insert usersPath (.of "proj:ds.users" .epoch [])) .start (Nat.zero_le 2)
  have found : cachedUsers.ask 4 usersPath = (some (.of "proj:ds.users" .epoch []), cachedUsers) := by
    simp [cachedUsers, Store.ask, Cache.get, CacheCall.cacheAfter, Cache.insert, Cache.isFresh, Cache.empty]
  refine ⟨found, ?_⟩
  rcases (@cache_transparent _ _ 4 _ _ cachedUsers rfl run (by decide) .empty 4 usersPath).1 _
    (by rw [Store.fetchSlowly, found]) with ⟨asked, -⟩ | kept
  · rw [found] at asked
    cases asked
  · exact kept

end

end SqlLens
