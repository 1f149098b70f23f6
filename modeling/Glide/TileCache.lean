import Mathlib.Data.List.Sort
import Mathlib.Data.List.Lex
import Glide.Library.RecencyLists
import Glide.MapTiles

/-! The tiles that the minimap keeps. Every request stamps its tile with the next number of 64
bits, and when there are too many tiles, those with the least stamps are dropped. -/
namespace Glide.TileCache
open Library AsciiText Runs RecencyLists BinaryFloat OfflineMapPackages PngImages MapTiles

/-- What does not change while the minimap is there. -/
structure Widget where
  tileSize : Nat
  backgroundRgb : UInt32
  decoding : Decoding
  packages : List OfflineMapPackage

/-- Zoom, column and row. -/
abbrev Key := Int × Int × Int

/-- The key as it is written, which is what the map of tiles is ordered by. -/
def keyText (key : Key) : List UInt8 :=
  signedDecimal key.1 ++ [47] ++ signedDecimal key.2.1 ++ [47] ++ signedDecimal key.2.2

/-- A tile that was loaded. -/
structure Tile where
  key : Key
  image : PngImage
  lastUsed : Nat

structure Minimap where
  activePackage : Option (OfflineMapPackage × Nat) := none
  cache : List Tile := []
  tick : Nat := 0

def Minimap.selectPackage (widget : Widget) (latitude longitude : FloatValue) (minimap : Minimap) :
    Minimap :=
  let best := MapTiles.selectPackage widget.packages latitude longitude
  if best.map Prod.snd = minimap.activePackage.map Prod.snd then minimap
  else { minimap with activePackage := best, cache := [] }

def rgb (value : UInt32) : UInt32 := 0xff000000 ||| (value &&& 0x00ffffff)

/-- A tile without an image is filled with the background. -/
def filled (widget : Widget) (image : Option PngImage) : PngImage :=
  match image with
  | some image => image
  | none =>
    ⟨widget.tileSize, widget.tileSize,
      List.replicate (widget.tileSize * widget.tileSize) (rgb widget.backgroundRgb)⟩

/-- The image of a tile that is not in the cache. -/
def loadImage (widget : Widget) (map : MapFiles) (package : Option (OfflineMapPackage × Nat))
    (key : Key) : PngImage :=
  filled widget (decodeTile widget.decoding map package key.1 key.2.1 key.2.2).join

/-- One turn of the loop that makes room. -/
def eraseVictim : List Tile → List Tile
  | [] => []
  | first :: rest =>
    let victim := leastFrom Tile.lastUsed first rest
    (first :: rest).filter fun tile => tile.key ≠ victim.key

/-- The loop has at most as many turns as there are tiles. -/
def pruneCache : (turns : Nat) → List Tile → List Tile
  | 0, cache => cache
  | turns + 1, cache =>
    if kMaxCachedTiles < cache.length then pruneCache turns (eraseVictim cache) else cache

/-- A call of `tile`, and the files as they are then. The number of rows is a number of type `int`. -/
structure Request where
  zoom : Nat
  x : Int
  y : Int
  map : MapFiles
  rows : zoom < 31

/-- The key of the entry that is returned, if any is, and the minimap after it. -/
def Minimap.tile (widget : Widget) (request : Request) (minimap : Minimap) : Option Key × Minimap :=
  let maxTile : Int := 2 ^ request.zoom
  if request.y < 0 ∨ maxTile ≤ request.y then (none, minimap)
  else
    let x := (request.x.tmod maxTile + maxTile).tmod maxTile
    let key : Key := (request.zoom, x, request.y)
    let tick := (minimap.tick + 1) % 2 ^ 64
    let cached := minimap.cache.any fun tile => tile.key == key
    let cache :=
      if cached then
        minimap.cache.map fun tile => if tile.key = key then { tile with lastUsed := tick } else tile
      else
        let inserted := minimap.cache.orderedInsert (fun left right => keyText left.key ≤ keyText right.key)
          ⟨key, loadImage widget request.map minimap.activePackage key, tick⟩
        pruneCache inserted.length inserted
    (some key, { minimap with cache, tick })

inductive Event where
  /-- The position is another one. -/
  | look (latitude longitude : FloatValue)
  | tile (request : Request)

def step (widget : Widget) (minimap : Minimap) : Event → Minimap
  | .look latitude longitude => minimap.selectPackage widget latitude longitude
  | .tile request => (minimap.tile widget request).2

def run (widget : Widget) (events : List Event) : Minimap := events.foldl (step widget) {}

/-! ### What is asked of the cache -/

def Request.inside (request : Request) : Bool := 0 ≤ request.y && request.y < 2 ^ request.zoom

def Request.key (request : Request) : Key :=
  (request.zoom, request.x % 2 ^ request.zoom, request.y)

/-- What was asked for since the package is another one, and what was loaded for each key when it
last came to be among those that are kept. -/
structure History where
  activePackage : Option (OfflineMapPackage × Nat) := none
  requests : List Key := []
  content : Key → Option PngImage := fun _ => none

def History.kept (history : History) : List Key := recent kMaxCachedTiles history.requests

def History.step (widget : Widget) (history : History) : Event → History
  | .look latitude longitude =>
    let best := MapTiles.selectPackage widget.packages latitude longitude
    if best.map Prod.snd = history.activePackage.map Prod.snd then history
    else { activePackage := best }
  | .tile request =>
    if request.inside then
      { history with
        requests := history.requests ++ [request.key]
        content := fun key =>
          if key = request.key ∧ request.key ∉ history.kept then
            some (loadImage widget request.map history.activePackage key)
          else history.content key }
    else history

def historyOf (widget : Widget) (events : List Event) : History :=
  events.foldl (History.step widget) {}

/-- The cache has exactly the tiles that are to be kept, as they were loaded. -/
structure Holds (minimap : Minimap) (history : History) : Prop where
  keys : (minimap.cache.map (·.key)).Perm history.kept
  content : ∀ tile ∈ minimap.cache, history.content tile.key = some tile.image

/-- A request is answered with the entry of its key, which is in the cache. -/
structure Served (widget : Widget) (request : Request) (before : Minimap) (after : History) : Prop where
  holds : Holds (before.tile widget request).2 after
  returned : (before.tile widget request).1 = some request.key
  valid : request.key ∈ (before.tile widget request).2.cache.map (·.key)

def requestCount (events : List Event) : Nat :=
  events.countP fun
    | .tile request => request.inside
    | .look _ _ => false

variable {order : List Tile} {minimap : Minimap} {history : History}

/-! ### Making room -/

/-- The newest in front. -/
def Newest (order : List Tile) : Prop :=
  order.Pairwise fun newer older => older.lastUsed < newer.lastUsed

theorem eraseVictim_perm {last : Tile} (perm : (order ++ [last]).Perm cache)
    (newest : Newest (order ++ [last])) (distinct : ((order ++ [last]).map (·.key)).Nodup) :
    (eraseVictim cache).Perm order := by
  cases cache with
  | nil => exact absurd perm.eq_nil (by simp)
  | cons first rest =>
    have victim := leastFrom_last perm newest
    unfold eraseVictim
    dsimp only
    rw [victim]
    have left : (order ++ [last]).filter (fun tile => tile.key ≠ last.key) = order := by
      rw [List.filter_append, List.filter_eq_self.mpr, List.filter_cons_of_neg (by simp),
        List.filter_nil, List.append_nil]
      intro tile member
      rw [List.map_append, List.nodup_append] at distinct
      have other := distinct.2.2 _ (List.mem_map_of_mem member) _ (List.mem_singleton_self _)
      simpa using other
    have filtered := perm.filter fun tile => tile.key ≠ last.key
    rw [left] at filtered
    exact filtered.symm

/-- The loop keeps the newest tiles. -/
theorem pruneCache_perm (perm : order.Perm cache) (newest : Newest order)
    (distinct : (order.map (·.key)).Nodup) (enough : cache.length ≤ turns) :
    (pruneCache turns cache).Perm (order.take kMaxCachedTiles) := by
  induction turns generalizing order cache with
  | zero =>
    have none := List.length_eq_zero_iff.mp (Nat.le_zero.mp enough)
    subst none
    rw [perm.eq_nil]
    exact List.Perm.refl _
  | succ turns ih =>
    have length := perm.length_eq
    unfold pruneCache
    split
    · rename_i full
      rcases List.eq_nil_or_concat order with rfl | ⟨front, last, rfl⟩
      · rw [← length] at full
        exact absurd full (Nat.not_lt_zero _)
      · rw [List.concat_eq_append] at perm newest distinct length ⊢
        rw [List.length_append, List.length_singleton] at length
        have erased := eraseVictim_perm perm newest distinct
        have short := erased.length_eq
        have frontNewest : Newest front := (List.pairwise_append.mp newest).1
        have frontDistinct : (front.map (·.key)).Nodup := by
          rw [List.map_append] at distinct
          exact (List.nodup_append.mp distinct).1
        have pruned := ih erased.symm frontNewest frontDistinct (by omega)
        rwa [List.take_append_of_le_length (by omega)]
    · rw [List.take_of_length_le (by omega)]
      exact perm.symm

/-! ### The cache in its order -/

/-- The tiles of the cache in the order of their stamps are those that are to be kept. -/
structure Ordered (order : List Tile) (minimap : Minimap) (history : History) : Prop where
  perm : order.Perm minimap.cache
  keys : order.map (·.key) = history.kept
  newest : Newest order
  stamped : ∀ tile ∈ order, tile.lastUsed ≤ minimap.tick
  content : ∀ tile ∈ order, history.content tile.key = some tile.image

theorem Ordered.holds (ordered : Ordered order minimap history) : Holds minimap history where
  keys := by
    rw [← ordered.keys]
    exact (ordered.perm.map _).symm
  content tile member := ordered.content tile (ordered.perm.mem_iff.mpr member)

/-- What is between two steps: so many requests were stamped. -/
structure Kept (minimap : Minimap) (history : History) (count : Nat) : Prop where
  package : minimap.activePackage = history.activePackage
  tick : minimap.tick = count
  ordered : ∃ order, Ordered order minimap history

theorem Kept.selectPackage (kept : Kept minimap history count) (widget : Widget)
    (latitude longitude : FloatValue) :
    Kept (minimap.selectPackage widget latitude longitude)
      (history.step widget (.look latitude longitude)) count := by
  unfold Minimap.selectPackage History.step
  dsimp only
  rw [kept.package]
  split
  · exact kept
  · exact ⟨rfl, kept.tick, [], List.Perm.refl _, rfl, List.Pairwise.nil, nofun, nofun⟩

theorem tile_inside (request : Request) (inside : request.inside = true) :
    ¬(request.y < 0 ∨ (2 : Int) ^ request.zoom ≤ request.y) ∧
      (request.x.tmod (2 ^ request.zoom) + 2 ^ request.zoom).tmod (2 ^ request.zoom) =
        request.x % 2 ^ request.zoom := by
  simp only [Request.inside, Bool.and_eq_true, decide_eq_true_eq] at inside
  exact ⟨by omega, wrapped request.x (by positivity)⟩

theorem mem_kept_iff (ordered : Ordered order minimap history) (key : Key) :
    (minimap.cache.any fun tile => tile.key == key) = true ↔ key ∈ history.kept := by
  rw [← ordered.keys, List.any_eq_true, List.mem_map]
  constructor
  · rintro ⟨tile, member, same⟩
    exact ⟨tile, ordered.perm.mem_iff.mpr member, by simpa using same⟩
  · rintro ⟨tile, member, same⟩
    exact ⟨tile, ordered.perm.mem_iff.mp member, by simpa using same⟩

/-- A tile with a later stamp comes in front of the others. -/
theorem Ordered.front (ordered : Ordered order minimap history) (tile : Tile)
    (later : minimap.tick < tile.lastUsed) :
    (tile :: order.filter (·.key ≠ tile.key)).map (·.key) =
        tile.key :: history.kept.filter (· ≠ tile.key) ∧
      Newest (tile :: order.filter (·.key ≠ tile.key)) ∧
      ∀ other ∈ tile :: order.filter (·.key ≠ tile.key), other.lastUsed ≤ tile.lastUsed := by
  have older : ∀ other ∈ order.filter (·.key ≠ tile.key), other.lastUsed < tile.lastUsed := by
    intro other member
    have stamped := ordered.stamped other (List.mem_of_mem_filter member)
    omega
  refine ⟨?_, ?_, ?_⟩
  · rw [List.map_cons, ← ordered.keys, List.filter_map]
    rfl
  · exact List.pairwise_cons.mpr ⟨older, ordered.newest.sublist List.filter_sublist⟩
  · intro other member
    rcases List.mem_cons.mp member with rfl | behind
    · exact Nat.le_refl _
    · exact Nat.le_of_lt (older other behind)

/-- A cached tile with another stamp. -/
def restamp (key : Key) (stamp : Nat) (tile : Tile) : Tile :=
  if tile.key = key then { tile with lastUsed := stamp } else tile

/-- Of tiles with distinct keys one is stamped. -/
theorem restamp_perm (hit : Tile) (stamp : Nat) (distinct : (order.map (·.key)).Nodup)
    (member : hit ∈ order) :
    ({ hit with lastUsed := stamp } :: order.filter (·.key ≠ hit.key)).Perm
      (order.map (restamp hit.key stamp)) := by
  induction order with
  | nil => cases member
  | cons first rest ih =>
    obtain ⟨absent, others⟩ := List.nodup_cons.mp distinct
    have unstamped : (∀ tile ∈ rest, tile.key ≠ hit.key) → rest.map (restamp hit.key stamp) = rest := by
      intro apart
      have same : ∀ tile ∈ rest, restamp hit.key stamp tile = tile :=
        fun tile listed => if_neg (apart tile listed)
      exact (List.map_congr_left same).trans (List.map_id' rest)
    rcases List.mem_cons.mp member with rfl | later
    · have apart : ∀ tile ∈ rest, tile.key ≠ hit.key := fun tile listed same =>
        absent (List.mem_map.mpr ⟨tile, listed, same⟩)
      have kept : rest.filter (·.key ≠ hit.key) = rest :=
        List.filter_eq_self.mpr fun tile listed => by simpa using apart tile listed
      rw [List.map_cons, unstamped apart, List.filter_cons_of_neg (by simp), kept, restamp,
        if_pos rfl]
    · have other : first.key ≠ hit.key := fun same => absent (List.mem_map.mpr ⟨hit, later, same.symm⟩)
      rw [List.map_cons, List.filter_cons_of_pos (by simpa using other), restamp, if_neg other]
      exact (List.Perm.swap ..).trans ((ih others later).cons first)

/-- What is to be kept after a request. -/
theorem kept_concat (history : History) (key : Key) (content : Key → Option PngImage) :
    History.kept { history with requests := history.requests ++ [key], content } =
      (key :: history.kept.filter (· ≠ key)).take kMaxCachedTiles := recent_concat ..

theorem Kept.hit (kept : Kept minimap history count) (request : Request)
    (member : request.key ∈ history.kept) (stamp : Nat) (later : minimap.tick < stamp)
    (content : Key → Option PngImage) (same : content = history.content) :
    ∃ order, Ordered order
      { minimap with cache := minimap.cache.map (restamp request.key stamp), tick := stamp }
      { history with requests := history.requests ++ [request.key], content } := by
  subst same
  obtain ⟨order, ordered⟩ := kept.ordered
  have distinct : (order.map (·.key)).Nodup := by
    rw [ordered.keys]
    exact nodup_recent ..
  have inOrder := member
  rw [← ordered.keys] at inOrder
  obtain ⟨hit, listed, key⟩ := List.mem_map.mp inOrder
  obtain ⟨keys, newest, stamped⟩ := ordered.front { hit with lastUsed := stamp } later
  refine ⟨{ hit with lastUsed := stamp } :: order.filter (·.key ≠ hit.key), ?_, ?_, newest, stamped, ?_⟩
  · rw [← key]
    exact (restamp_perm hit stamp distinct listed).trans (ordered.perm.map _)
  · rw [kept_concat, keys, key]
    refine (List.take_of_length_le ?_).symm
    have short := length_recent_le kMaxCachedTiles history.requests
    have less : (history.kept.filter (· ≠ request.key)).length < history.kept.length :=
      List.length_filter_lt_length_iff_exists.mpr ⟨request.key, member, by simp⟩
    exact Nat.le_trans less short
  · intro tile front
    rcases List.mem_cons.mp front with rfl | behind
    · exact ordered.content hit listed
    · exact ordered.content tile (List.mem_of_mem_filter behind)

/-- The loaded tile comes in front, and what is too much behind it is dropped. -/
theorem Kept.miss (kept : Kept minimap history count) (request : Request) (image : PngImage)
    (absent : request.key ∉ history.kept) (stamp : Nat) (later : minimap.tick < stamp)
    (inserted : List Tile) (perm : inserted.Perm (⟨request.key, image, stamp⟩ :: minimap.cache)) :
    ∃ order, Ordered order
      { minimap with cache := pruneCache inserted.length inserted, tick := stamp }
      { history with
        requests := history.requests ++ [request.key]
        content := fun key => if key = request.key then some image else history.content key } := by
  obtain ⟨order, ordered⟩ := kept.ordered
  obtain ⟨keys, newest, stamped⟩ := ordered.front ⟨request.key, image, stamp⟩ later
  have apart : ∀ tile ∈ order, tile.key ≠ request.key := by
    intro tile member same
    apply absent
    rw [← ordered.keys, ← same]
    exact List.mem_map_of_mem member
  have all : order.filter (·.key ≠ request.key) = order :=
    List.filter_eq_self.mpr fun tile member => by simpa using apart tile member
  dsimp only at keys newest stamped
  rw [all] at keys newest stamped
  have distinct : ((⟨request.key, image, stamp⟩ :: order : List Tile).map (·.key)).Nodup := by
    rw [keys]
    refine List.nodup_cons.mpr ⟨by simp, ?_⟩
    exact (nodup_recent ..).sublist List.filter_sublist
  have front := (ordered.perm.cons ⟨request.key, image, stamp⟩).trans perm.symm
  have pruned := pruneCache_perm front newest distinct (Nat.le_refl inserted.length)
  refine ⟨_, pruned.symm, ?_, newest.sublist (List.take_sublist ..), ?_, ?_⟩
  · rw [kept_concat, List.map_take, keys]
  · exact fun tile member => stamped tile (List.mem_of_mem_take member)
  · intro tile member
    rcases List.mem_cons.mp (List.mem_of_mem_take member) with rfl | behind
    · exact if_pos rfl
    · exact (if_neg (apart tile behind)).trans (ordered.content tile behind)

/-! ### Runs -/

/-- A request for a row inside the world stamps its tile. -/
theorem Kept.tile (kept : Kept minimap history count) (widget : Widget) (request : Request)
    (inside : request.inside = true) (few : count + 1 < 2 ^ 64) :
    Kept (minimap.tile widget request).2 (history.step widget (.tile request)) (count + 1) ∧
      (minimap.tile widget request).1 = some request.key := by
  obtain ⟨row, column⟩ := tile_inside request inside
  have stamp : (minimap.tick + 1) % 2 ^ 64 = count + 1 := by
    rw [kept.tick]
    exact Nat.mod_eq_of_lt few
  have later : minimap.tick < count + 1 := by
    rw [kept.tick]
    exact Nat.lt_succ_self count
  unfold Minimap.tile
  dsimp only
  rw [if_neg row, column, stamp]
  refine ⟨⟨?_, rfl, ?_⟩, rfl⟩
  · simp only [History.step, inside, ↓reduceIte]
    exact kept.package
  · obtain ⟨known, ordered⟩ := kept.ordered
    have cached := mem_kept_iff ordered request.key
    simp only [History.step, inside, ↓reduceIte]
    by_cases member : request.key ∈ history.kept
    · have hit : (minimap.cache.any fun tile => tile.key == request.key) = true := cached.mpr member
      have unloaded : (fun key => if key = request.key ∧ request.key ∉ history.kept then
          some (loadImage widget request.map history.activePackage key)
          else history.content key) = history.content :=
        funext fun key => if_neg fun both => both.2 member
      have found := kept.hit request member (count + 1) later _ unloaded
      unfold Request.key at hit
      rw [if_pos hit]
      exact found
    · have miss : ¬(minimap.cache.any fun tile => tile.key == request.key) = true :=
        fun hit => member (cached.mp hit)
      have loaded : (fun key => if key = request.key ∧ request.key ∉ history.kept then
          some (loadImage widget request.map history.activePackage key)
          else history.content key) = fun key => if key = request.key then
            some (loadImage widget request.map minimap.activePackage request.key)
            else history.content key := by
        funext key
        by_cases same : key = request.key
        · rw [if_pos ⟨same, member⟩, if_pos same, same, kept.package]
        · rw [if_neg fun both => same both.1, if_neg same]
      have found := kept.miss request (loadImage widget request.map minimap.activePackage request.key)
        member (count + 1) later _ (List.perm_orderedInsert
          (fun left right => keyText left.key ≤ keyText right.key) _ minimap.cache)
      unfold Request.key at miss
      rw [if_neg miss, loaded]
      exact found

theorem row_outside {request : Request} (outside : ¬request.inside = true) :
    request.y < 0 ∨ (2 : Int) ^ request.zoom ≤ request.y := by
  simp only [Request.inside, Bool.and_eq_true, decide_eq_true_eq] at outside
  omega

theorem tile_outside (widget : Widget) (request : Request) (minimap : Minimap)
    (outside : ¬request.inside = true) : minimap.tile widget request = (none, minimap) := by
  unfold Minimap.tile
  dsimp only
  rw [if_pos (row_outside outside)]

theorem requestCount_concat (events : List Event) (event : Event) :
    requestCount (events ++ [event]) = requestCount events + requestCount [event] :=
  List.countP_append ..

/-- Every run with fewer requests than there are numbers keeps what it should. -/
theorem run_kept (widget : Widget) (events : List Event) (few : requestCount events < 2 ^ 64) :
    Kept (run widget events) (historyOf widget events) (requestCount events) := by
  induction events using List.reverseRecOn with
  | nil => exact ⟨rfl, rfl, [], List.Perm.refl _, rfl, List.Pairwise.nil, nofun, nofun⟩
  | append_singleton events event ih =>
    rw [requestCount_concat] at few ⊢
    have kept := ih (Nat.lt_of_le_of_lt (Nat.le_add_right ..) few)
    unfold run historyOf at kept ⊢
    rw [List.foldl_append, List.foldl_append]
    cases event with
    | look latitude longitude => exact kept.selectPackage widget latitude longitude
    | tile request =>
      by_cases inside : request.inside = true
      · have one : requestCount [.tile request] = 1 := by simp [requestCount, inside]
        rw [one] at few ⊢
        exact (kept.tile widget request inside few).1
      · have none : requestCount [.tile request] = 0 := by simp [requestCount, inside]
        rw [none]
        simp only [List.foldl_cons, List.foldl_nil, step, tile_outside widget request _ inside,
          History.step, inside]
        exact kept

/-- After every request for a row inside the world, of fewer than there are numbers of 64 bits, the
cache holds the tiles that were asked for last, and among them the one that is returned. -/
theorem tile_served (widget : Widget) (events : List Event) (request : Request)
    (inside : request.inside = true) (few : requestCount events + 1 < 2 ^ 64) :
    Served widget request (run widget events) (historyOf widget (events ++ [.tile request])) := by
  have kept := run_kept widget events (Nat.lt_of_succ_lt few)
  obtain ⟨after, returned⟩ := kept.tile widget request inside few
  obtain ⟨order, ordered⟩ := after.ordered
  have history : historyOf widget (events ++ [.tile request]) =
      (historyOf widget events).step widget (.tile request) := by
    unfold historyOf
    rw [List.foldl_append]
    rfl
  rw [history]
  refine ⟨ordered.holds, returned, ?_⟩
  rw [ordered.holds.keys.mem_iff]
  simp only [History.step, inside, ↓reduceIte, kept_concat]
  exact List.mem_cons_self ..

/-! ### The cache without its stamps -/

def Event.unstamped : Event → MapTiles.Event
  | .look latitude longitude => .look latitude longitude
  | .tile request => .tile request.zoom request.x request.y

/-- What is to be kept is what the list holds that has the tile in front that was used last, and
it is as it is stored in files that stay as they are. -/
structure Mirrors (widget : Widget) (map : MapFiles) (listed : MapTiles.Minimap)
    (history : History) : Prop where
  package : listed.activePackage = history.activePackage
  keys : listed.cache.map Prod.fst = history.kept
  content : ∀ key ∈ history.kept,
    history.content key = some (loadImage widget map history.activePackage key)

theorem Mirrors.look (mirrors : Mirrors widget map listed history)
    (packages : map.packages = widget.packages) (latitude longitude : FloatValue) :
    Mirrors widget map (listed.selectPackage map latitude longitude)
      (history.step widget (.look latitude longitude)) := by
  unfold MapTiles.Minimap.selectPackage History.step
  dsimp only
  rw [packages, mirrors.package]
  split
  · exact mirrors
  · exact ⟨rfl, rfl, nofun⟩

theorem Mirrors.tile (mirrors : Mirrors widget map listed history) (request : Request)
    (steady : request.map = map) :
    Mirrors widget map
      (listed.tile widget.decoding map request.zoom request.x request.y).2
      (history.step widget (.tile request)) := by
  unfold MapTiles.Minimap.tile History.step
  dsimp only
  by_cases inside : request.inside = true
  · obtain ⟨row, column⟩ := tile_inside request inside
    rw [if_neg row, column, if_pos inside]
    refine ⟨mirrors.package, ?_, ?_⟩
    · rw [kept_concat, ← mirrors.keys, List.map_take, List.map_cons, List.filter_map]
      rfl
    · intro key member
      rw [kept_concat] at member
      dsimp only
      by_cases loaded : key = request.key ∧ request.key ∉ history.kept
      · rw [if_pos loaded, steady]
      · rw [if_neg loaded]
        refine mirrors.content key ?_
        rcases List.mem_cons.1 (List.mem_of_mem_take member) with rfl | other
        · exact not_not.1 fun absent => loaded ⟨rfl, absent⟩
        · exact List.mem_of_mem_filter other
  · rw [if_pos (row_outside inside), if_neg inside]
    exact mirrors

theorem run_mirrors (packages : map.packages = widget.packages)
    (steady : ∀ request, Event.tile request ∈ events → request.map = map) :
    Mirrors widget map (MapTiles.run widget.decoding map (events.map Event.unstamped))
      (historyOf widget events) := by
  induction events using List.reverseRecOn with
  | nil => exact ⟨rfl, rfl, nofun⟩
  | append_singleton events event ih =>
    have mirrors := ih fun request member => steady request (List.mem_append_left _ member)
    unfold MapTiles.run historyOf at mirrors ⊢
    rw [List.map_append, List.foldl_append, List.foldl_append]
    cases event with
    | look latitude longitude => exact mirrors.look packages latitude longitude
    | tile request =>
      exact mirrors.tile request (steady request (List.mem_append_right _ (List.mem_singleton_self _)))

/-- While there are numbers for the stamps and the files stay as they are, the minimap keeps the
tiles that it would keep in a list with the tile in front that was used last. -/
theorem run_unstamped (widget : Widget) (map : MapFiles) (events : List Event)
    (packages : map.packages = widget.packages)
    (steady : ∀ request, Event.tile request ∈ events → request.map = map)
    (few : requestCount events < 2 ^ 64) :
    let listed := MapTiles.run widget.decoding map (events.map Event.unstamped)
    (run widget events).activePackage = listed.activePackage ∧
      ((run widget events).cache.map fun tile => (tile.key, tile.image)).Perm
        (listed.cache.map fun entry => (entry.1, filled widget entry.2.join)) := by
  have mirrors := run_mirrors packages steady
  have sound := run_sound widget.decoding map (events.map Event.unstamped)
  have kept := run_kept widget events few
  obtain ⟨order, ordered⟩ := kept.ordered
  refine ⟨kept.package.trans mirrors.package.symm, ?_⟩
  have stored : order.map (fun tile => (tile.key, tile.image)) =
      (historyOf widget events).kept.map fun key =>
        (key, loadImage widget map (historyOf widget events).activePackage key) := by
    rw [← ordered.keys, List.map_map]
    refine List.map_congr_left fun tile member => ?_
    have recorded := ordered.content tile member
    have key : tile.key ∈ (historyOf widget events).kept := by
      rw [← ordered.keys]
      exact List.mem_map_of_mem member
    rw [mirrors.content _ key] at recorded
    exact congrArg (Prod.mk tile.key) (Option.some.inj recorded).symm
  have listed : (MapTiles.run widget.decoding map (events.map Event.unstamped)).cache.map
      (fun entry => (entry.1, filled widget entry.2.join)) =
      (historyOf widget events).kept.map fun key =>
        (key, loadImage widget map (historyOf widget events).activePackage key) := by
    rw [← mirrors.keys, List.map_map, ← mirrors.package]
    refine List.map_congr_left fun entry member => ?_
    rw [sound.cached entry member]
    rfl
  rw [listed, ← stored]
  exact (ordered.perm.map _).symm

/-! ### A run of all the numbers -/

/-- A minimap without any tiles to load. -/
def bareWidget : Widget := ⟨1, 0, ⟨.bits64, fun _ _ => none, 0⟩, []⟩

theorem five_rows : 5 < 31 := by decide

def topTile (column : Nat) : Request :=
  ⟨5, column, 0, ⟨fun _ => none, [], fun _ _ _ => none⟩, five_rows⟩

def squareWidget : Widget := { bareWidget with packages := [degreeSquare] }

def two : FloatValue := Double.value 0x4000000000000000

/-- In the square more tiles are asked for than are kept, and outside of it just as many as are. -/
def travelled : List Event :=
  .look (Double.value 0) (Double.value 0) ::
    ((List.range 30).map fun column => .tile (topTile column)) ++
    .look two two :: (List.range 25).map fun column => .tile (topTile column)

/-- The cache is full, and without the tiles of the square; the next tile takes the place of the
first one. -/
theorem top_tile_served :
    Served squareWidget (topTile 25) (run squareWidget travelled)
        (historyOf squareWidget (travelled ++ [.tile (topTile 25)])) ∧
      (run squareWidget travelled).cache.length = 25 ∧
      (historyOf squareWidget (travelled ++ [.tile (topTile 25)])).requests.length = 26 ∧
      (topTile 0).key ∉ (historyOf squareWidget (travelled ++ [.tile (topTile 25)])).kept :=
  ⟨tile_served squareWidget travelled (topTile 25) (by decide) (by decide +kernel), by decide +kernel,
    by decide +kernel, by decide +kernel⟩

theorem tile_again (image : PngImage) (tick : Nat) :
    (Minimap.tile bareWidget (topTile 0) ⟨none, [⟨(topTile 0).key, image, tick⟩], tick⟩).2 =
      ⟨none, [⟨(topTile 0).key, image, (tick + 1) % 2 ^ 64⟩], (tick + 1) % 2 ^ 64⟩ := by
  have row : ¬((topTile 0).y < 0 ∨ (2 : Int) ^ (topTile 0).zoom ≤ (topTile 0).y) := by decide
  have column : ((topTile 0).x.tmod (2 ^ (topTile 0).zoom) + 2 ^ (topTile 0).zoom).tmod
      (2 ^ (topTile 0).zoom) = 0 := by decide
  have key : (topTile 0).key = (5, 0, 0) := by decide
  unfold Minimap.tile
  dsimp only
  rw [if_neg row, column, key]
  rfl

/-- The same tile again and again is the only one. -/
theorem replicate_tile (count : Nat) :
    (List.replicate (count + 1) (Event.tile (topTile 0))).foldl (step bareWidget) {} =
      ⟨none, [⟨(topTile 0).key, loadImage bareWidget (topTile 0).map none (topTile 0).key,
          (count + 1) % 2 ^ 64⟩], (count + 1) % 2 ^ 64⟩ := by
  induction count with
  | zero =>
    have key : (topTile 0).key = (5, 0, 0) := by decide
    rw [key]
    rfl
  | succ count ih =>
    have next : ((count + 1) % 2 ^ 64 + 1) % 2 ^ 64 = (count + 1 + 1) % 2 ^ 64 := Nat.mod_add_mod ..
    rw [List.replicate_succ', List.foldl_append, ih, ← next]
    exact tile_again _ _

/-- Requests for as many tiles as are kept, the first of them so often that the last one has the
last stamp. -/
def wrapEvents : List Event :=
  List.replicate (2 ^ 64 - 25 - 1 + 1) (Event.tile (topTile 0)) ++
    (List.range 24).map fun column => Event.tile (topTile (column + 1))

theorem wrapEvents_run : run bareWidget wrapEvents =
    ((List.range 24).map fun column => Event.tile (topTile (column + 1))).foldl (step bareWidget)
      ⟨none, [⟨(topTile 0).key, loadImage bareWidget (topTile 0).map none (topTile 0).key,
          (2 ^ 64 - 25 - 1 + 1) % 2 ^ 64⟩], (2 ^ 64 - 25 - 1 + 1) % 2 ^ 64⟩ := by
  unfold run wrapEvents
  rw [List.foldl_append, replicate_tile]

/-- The next stamp is 0, and its tile is the one that is dropped before it is returned. -/
theorem wrapped_tile_dropped : ¬∀ widget events request, Request.inside request = true →
    Served widget request (run widget events) (historyOf widget (events ++ [.tile request])) := by
  intro served
  have valid := (served bareWidget wrapEvents (topTile 25) (by decide)).valid
  rw [wrapEvents_run] at valid
  exact absurd valid (by decide +kernel)

end Glide.TileCache
