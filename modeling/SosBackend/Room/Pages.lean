import SosBackend.Library.Pages
import SosBackend.Room.Session

/-!
# The pages of the room list

The position at which a page starts is a product of two numbers of 32 bits, and is computed
in 32 bits. For a page number that is far behind the end the product wraps around, and the
response shows rooms of another page.
-/

namespace SosBackend

namespace Room

namespace RoomServer

open Pages

/-- The length of a page, for the `page_size` of a request. -/
def pageLength (pageSize : UInt32) : ℕ :=
  if pageSize = 0 then 20 else min pageSize.toNat 100

/-- The response shows the rooms on the page asked for, and the number of all rooms. -/
structure ShowsPage (σ : RoomServer) (request : RoomListRequest)
    (response : RoomListResponse) : Prop where
  rooms : response.rooms = (page (pageLength request.pageSize) request.page.toNat
    σ.waitingRooms).map Room.toRoomSummary
  total : response.totalRooms.toNat = σ.waitingRooms.length

/-- A request is answered with the page that it asks for. -/
def AnswersPage (σ : RoomServer) (s : SessionPtr) (request : RoomListRequest) : Prop :=
  ∃ response, σ.handleRoomListRequest request s = σ.send s none (.roomListResponse response) ∧
    ShowsPage σ request response

/-- The responses to all pages of one size, one after the other, show every room once; and
the pages behind the end are empty. -/
structure PartitionsRooms (σ : RoomServer) (s : SessionPtr) (pageSize : UInt32)
    (pages : UInt32 → RoomListResponse) : Prop where
  answers : ∀ page, σ.handleRoomListRequest ⟨page, pageSize⟩ s =
    σ.send s none (.roomListResponse (pages page))
  shows : ∀ page, ShowsPage σ ⟨page, pageSize⟩ (pages page)
  whole : ((List.range (2 ^ 32)).flatMap fun k => (pages (UInt32.ofNat k)).rooms) =
    σ.waitingRooms.map Room.toRoomSummary
  beyond : ∀ page, σ.waitingRooms.length ≤ page.toNat * pageLength pageSize →
    (pages page).rooms = []

variable {σ : RoomServer} {s : SessionPtr}

theorem pageLength_ne_zero (pageSize : UInt32) : pageLength pageSize ≠ 0 := by
  unfold pageLength
  split
  · exact Nat.succ_ne_zero 19
  · next h =>
      have hne : pageSize.toNat ≠ 0 := fun hzero => h (UInt32.toNat_inj.1 hzero)
      omega

theorem pageLength_le (pageSize : UInt32) : pageLength pageSize ≤ 100 := by
  unfold pageLength
  split <;> omega

/-- The size that the handler computes. -/
theorem toNat_pageSize (pageSize : UInt32) :
    (if 100 < (if pageSize = 0 then 20 else pageSize) then 100
      else if pageSize = 0 then 20 else pageSize : UInt32).toNat = pageLength pageSize := by
  unfold pageLength
  by_cases hzero : pageSize = 0
  · rw [if_pos hzero, if_pos hzero]
    rfl
  · rw [if_neg hzero, if_neg hzero]
    by_cases hlarge : 100 < pageSize
    · have hlt : 100 < pageSize.toNat := UInt32.lt_iff_toNat_lt.1 hlarge
      rw [if_pos hlarge, Nat.min_eq_right hlt.le]
      rfl
    · have hle : pageSize.toNat ≤ 100 := not_lt.1 fun hlt =>
        hlarge (UInt32.lt_iff_toNat_lt.2 hlt)
      rw [if_neg hlarge, Nat.min_eq_left hle]

/-- What a request is answered with: the page starts at a product modulo `2 ^ 32`. -/
def answer (σ : RoomServer) (request : RoomListRequest) : RoomListResponse where
  rooms := (slice (request.page.toNat * pageLength request.pageSize % 2 ^ 32)
    (request.page.toNat * pageLength request.pageSize % 2 ^ 32 + pageLength request.pageSize)
    σ.waitingRooms).map Room.toRoomSummary
  totalRooms := UInt32.ofNat σ.waitingRooms.length

theorem toNat_total (hlength : σ.waitingRooms.length < 2 ^ 31) :
    (UInt32.ofNat σ.waitingRooms.length).toNat = σ.waitingRooms.length := by
  rw [UInt32.toNat_ofNat']
  exact Nat.mod_eq_of_lt (by omega)

/-- Where the end of the page wraps around as well, the page starts behind the last room. -/
theorem handleRoomListRequest_eq (hlength : σ.waitingRooms.length < 2 ^ 31)
    (request : RoomListRequest) (s : SessionPtr) : σ.handleRoomListRequest request s =
      σ.send s none (.roomListResponse (σ.answer request)) := by
  have hsize := toNat_pageSize request.pageSize
  have hle := pageLength_le request.pageSize
  unfold handleRoomListRequest answer
  simp only
  generalize (if 100 < (if request.pageSize = 0 then 20 else request.pageSize) then 100
    else if request.pageSize = 0 then 20 else request.pageSize : UInt32) = size at hsize
  have hoffset : (request.page * size).toNat =
      request.page.toNat * pageLength request.pageSize % 2 ^ 32 := by
    rw [UInt32.toNat_mul, hsize]
  have hrooms : (σ.waitingRooms.take (min (UInt32.ofNat σ.waitingRooms.length)
      (request.page * size + size)).toNat).drop (request.page * size).toNat =
      slice (request.page.toNat * pageLength request.pageSize % 2 ^ 32)
        (request.page.toNat * pageLength request.pageSize % 2 ^ 32 +
          pageLength request.pageSize) σ.waitingRooms := by
    rw [UInt32.toNat_min, toNat_total hlength, UInt32.toNat_add, hsize, hoffset]
    by_cases hwraps : request.page.toNat * pageLength request.pageSize % 2 ^ 32 +
        pageLength request.pageSize < 2 ^ 32
    · rw [Nat.mod_eq_of_lt hwraps]
      exact slice_min_length _ _ _
    · have hnil : slice (request.page.toNat * pageLength request.pageSize % 2 ^ 32)
          (request.page.toNat * pageLength request.pageSize % 2 ^ 32 +
            pageLength request.pageSize) σ.waitingRooms = [] := by
        rw [slice, List.drop_eq_nil_iff, List.length_take]
        omega
      rw [hnil, List.drop_eq_nil_iff, List.length_take]
      omega
  rw [hrooms]

theorem showsPage_answer_iff (hlength : σ.waitingRooms.length < 2 ^ 31)
    (request : RoomListRequest) : ShowsPage σ request (σ.answer request) ↔
      Starts (2 ^ 32) (pageLength request.pageSize) request.page.toNat σ.waitingRooms := by
  have hrooms := map_slice_mod_eq_iff Room.toRoomSummary (M := 2 ^ 32)
    (k := request.page.toNat) (l := σ.waitingRooms) (pageLength_ne_zero request.pageSize)
    (by omega)
  constructor
  · intro h
    exact hrooms.1 h.rooms
  · intro h
    exact ⟨hrooms.2 h, toNat_total hlength⟩

/-- The response to a request is one message. -/
theorem eq_answer (hlength : σ.waitingRooms.length < 2 ^ 31) {request : RoomListRequest}
    {response : RoomListResponse} (h : σ.handleRoomListRequest request s =
      σ.send s none (.roomListResponse response)) : response = σ.answer request := by
  rw [handleRoomListRequest_eq hlength] at h
  have hsent := List.append_cancel_left (congrArg RoomServer.sent h)
  cases hsent
  rfl

/-- All pages together. -/
theorem partitionsRooms_of_starts (hlength : σ.waitingRooms.length < 2 ^ 31)
    {pageSize : UInt32} (h : ∀ page : UInt32,
      Starts (2 ^ 32) (pageLength pageSize) page.toNat σ.waitingRooms) :
    PartitionsRooms σ s pageSize fun page => σ.answer ⟨page, pageSize⟩ := by
  have hshows : ∀ page, ShowsPage σ ⟨page, pageSize⟩ (σ.answer ⟨page, pageSize⟩) :=
    fun page => (showsPage_answer_iff hlength _).2 (h page)
  constructor
  · exact fun page => handleRoomListRequest_eq hlength _ s
  · exact hshows
  · have hpages : ∀ k ∈ List.range (2 ^ 32),
        (σ.answer ⟨UInt32.ofNat k, pageSize⟩).rooms =
          (page (pageLength pageSize) k σ.waitingRooms).map Room.toRoomSummary := by
      intro k hk
      have hk' : (UInt32.ofNat k).toNat = k := by
        rw [UInt32.toNat_ofNat']
        exact Nat.mod_eq_of_lt (List.mem_range.1 hk)
      rw [(hshows (UInt32.ofNat k)).rooms, hk']
    have hall : σ.waitingRooms.length ≤ 2 ^ 32 * pageLength pageSize := by
      have hsize := Nat.pos_of_ne_zero (pageLength_ne_zero pageSize)
      omega
    rw [List.flatMap_congr hpages, ← List.map_flatMap, flatMap_page, List.take_of_length_le hall]
  · intro page hpage
    rw [(hshows page).rooms, (page_eq_nil_iff (pageLength_ne_zero pageSize)).2 hpage]
    rfl

/-- A request is answered with its page if and only if the page starts, computed without
bounds, before the position `2 ^ 32`, or there are no rooms where it starts modulo that.
The pages of one size are a partition of the rooms if and only if there are no rooms, or
there is one room on a page, or there is one room and the size is odd. -/
theorem answersPage_iff (hlength : σ.waitingRooms.length < 2 ^ 31) (s : SessionPtr) :
    (∀ request, AnswersPage σ s request ↔
      request.page.toNat * pageLength request.pageSize < 2 ^ 32 ∨
        σ.waitingRooms.length ≤
          request.page.toNat * pageLength request.pageSize % 2 ^ 32) ∧
    ∀ pageSize, (∃ pages, PartitionsRooms σ s pageSize pages) ↔
      σ.waitingRooms = [] ∨ pageLength pageSize = 1 ∨
        σ.waitingRooms.length = 1 ∧ pageLength pageSize % 2 = 1 := by
  constructor
  · intro request
    rw [← Starts, ← showsPage_answer_iff hlength]
    constructor
    · rintro ⟨response, hsent, hshows⟩
      rwa [eq_answer hlength hsent] at hshows
    · intro hshows
      exact ⟨_, handleRoomListRequest_eq hlength request s, hshows⟩
  · intro pageSize
    have hle := pageLength_le pageSize
    rw [← forall_starts_iff (w := 31) (pageLength_ne_zero pageSize) (by omega)]
    constructor
    · rintro ⟨pages, hpages⟩ k hk
      have hshows := hpages.shows (UInt32.ofNat k)
      rw [eq_answer hlength (hpages.answers _), showsPage_answer_iff hlength,
        UInt32.toNat_ofNat', Nat.mod_eq_of_lt hk] at hshows
      exact hshows
    · intro h
      exact ⟨_, partitionsRooms_of_starts hlength fun page => h _ page.toNat_lt⟩

/-- The first page of one room. -/
theorem answersPage_iff_first : AnswersPage ((initial {}).handleCreateRoom defaultEnv
    ⟨"p", "P", "room", 4⟩ 0) 0 ⟨0, 20⟩ :=
  ((answersPage_iff (by decide) 0).1 _).2 (Or.inl (by decide))

/-- The page with the number `2 ^ 30` of pages of 20 rooms is the first one again. -/
theorem not_answersPage_wraps : ¬ ∀ is σ, Run (Step defaultEnv) (initial {}) is σ →
    σ.waitingRooms.length < 2 ^ 31 → ∀ s request, AnswersPage σ s request := by
  intro hclaim
  obtain ⟨σ, hrun, hσ⟩ := exists_run_of_exec (fun _ _ => true) (step defaultEnv) (initial {})
    [.connect 0 "10.0.0.1", .clientMessage 0 (.createRoom ⟨"p", "P", "room", 4⟩)]
    (fun σ => σ.waitingRooms.length == 1 &&
      (σ.handleRoomListRequest ⟨1073741824, 20⟩ 0).sent.getLast?.any fun delivery =>
        match delivery.envelope with
        | .roomListResponse response => response.rooms.length == 1
        | _ => false)
    (by decide +kernel)
  rw [Bool.and_eq_true, beq_iff_eq] at hσ
  obtain ⟨response, heq, hshows⟩ := hclaim _ σ (hrun.mono fun _ _ _ hstep => hstep.1)
    (by rw [hσ.1]; decide) 0 ⟨1073741824, 20⟩
  have hnil : page (pageLength 20) 1073741824 σ.waitingRooms = [] := by
    rw [page_eq_nil_iff (by decide), hσ.1]
    decide
  have hrooms : response.rooms = [] := by
    rw [hshows.rooms]
    exact congrArg (List.map Room.toRoomSummary) hnil
  have hlast := hσ.2
  rw [heq, send, List.getLast?_append] at hlast
  have hone : response.rooms.length = 1 := beq_iff_eq.1 hlast
  rw [hrooms] at hone
  cases hone

end RoomServer

end Room

end SosBackend
