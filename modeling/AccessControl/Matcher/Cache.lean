import AccessControl.Matcher.Parser

/-! A cache of the matchers that were read most recently, by their texts. -/

namespace AccessControl

/-- A matcher in the cache, with the number of its reading, which tells it apart from other
readings. -/
structure CachedMatcher where
  source : String
  matcher : Matcher
  reading : Nat
deriving Repr, DecidableEq

/-- A cache of matchers; the last entry is the one used last. -/
structure MatcherCache where
  limit : Nat
  entries : List CachedMatcher
  readings : Nat
deriving Repr

namespace MatcherCache

/-- The size of a cache for which no other is asked. -/
def defaultLimit : Nat := 256

/-- A cache without matchers that keeps at most so many; it keeps one at least. -/
def create (limit : Int) : Except Error MatcherCache :=
  if limit < 1 then .error (.number (.cacheSize limit)) else .ok ⟨limit.toNat, [], 0⟩

/-- The entry of a text. -/
def find? (cache : MatcherCache) (source : String) : Option CachedMatcher :=
  cache.entries.find? fun entry => entry.source == source

/-- The entries of all other texts. -/
def others (cache : MatcherCache) (source : String) : List CachedMatcher :=
  cache.entries.filter fun entry => entry.source != source

/-- The cache after a use of an entry; the entries used longest ago give way. -/
def use (cache : MatcherCache) (entry : CachedMatcher) (readings : Nat) : MatcherCache :=
  let entries := cache.others entry.source ++ [entry]
  ⟨cache.limit, entries.drop (entries.length - cache.limit), readings⟩

/-- The matcher of a text, read only if it is not in the cache; a text that is none changes
nothing. -/
def compile (cache : MatcherCache) (source : String) :
    Except Error (MatcherCache × CachedMatcher) :=
  match cache.find? source with
  | some entry => .ok (cache.use entry cache.readings, entry)
  | none => do
    let matcher ← Matcher.read source
    let entry : CachedMatcher := ⟨source, matcher, cache.readings⟩
    return (cache.use entry (cache.readings + 1), entry)

end MatcherCache

end AccessControl
