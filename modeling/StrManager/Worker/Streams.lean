import StrManager.Library.Index
import StrManager.Library.Table
import StrManager.Streams.StreamList

namespace StrManager

open Library Function

/-! The management and forwarding tables of a worker. Both are read with the
default-inserting subscript, so a lookup may leave a null list or a route to
list 0 behind. -/

structure StreamTables where
  management : Table Int (Option StreamList)
  forwarding : Table SockAddr Int

namespace StreamTables

def empty : StreamTables where
  management := ∅
  forwarding := ∅

/-- What `management[listId]` reads; null and absent lists are alike. -/
def lists (tables : StreamTables) : Int → Option StreamList :=
  tables.management.subscript none

def routes (tables : StreamTables) : SockAddr → Int :=
  tables.forwarding.subscript 0

def getStreamList (tables : StreamTables) (listId : Int) :
    Option StreamList × StreamTables :=
  (tables.lists listId,
    { tables with management := tables.management.touch none listId })

def getListIdBySocket (tables : StreamTables) (addr : SockAddr) :
    Int × StreamTables :=
  (tables.routes addr,
    { tables with forwarding := tables.forwarding.touch 0 addr })

def getStreamListBySocket (tables : StreamTables) (addr : SockAddr) :
    Option StreamList × StreamTables :=
  let (listId, tables) := tables.getListIdBySocket addr
  tables.getStreamList listId

/-- The effect of changing the list object that `management[listId]` points
to. -/
def modifyList (tables : StreamTables) (listId : Int) (list : StreamList) :
    StreamTables :=
  { tables with management := tables.management.insert listId (some list) }

def addStreamList (tables : StreamTables) (listId : Int) (list : StreamList) :
    StreamTables where
  management := tables.management.insert listId (some list)
  forwarding := tables.forwarding.insert list.getSourceSockAddr listId

def removeStreamList (tables : StreamTables) (listId : Int) :
    Except Fault StreamTables :=
  match tables.lists listId with
  | none => .error .nullStreamList
  | some list => .ok {
      management := tables.management.erase listId
      forwarding := tables.forwarding.erase list.getSourceSockAddr }

def isEmpty (tables : StreamTables) : Bool := tables.management.entries.isEmpty

@[simp] theorem lists_empty (listId : Int) : empty.lists listId = none :=
  Table.subscript_empty none listId

@[simp] theorem routes_empty (addr : SockAddr) : empty.routes addr = 0 :=
  Table.subscript_empty 0 addr

@[simp] theorem getStreamList_fst (tables : StreamTables) (listId : Int) :
    (tables.getStreamList listId).1 = tables.lists listId := rfl

@[simp] theorem lists_getStreamList (tables : StreamTables) (listId : Int) :
    (tables.getStreamList listId).2.lists = tables.lists :=
  Table.subscript_touch _ _ _

@[simp] theorem routes_getStreamList (tables : StreamTables) (listId : Int) :
    (tables.getStreamList listId).2.routes = tables.routes := rfl

@[simp] theorem getListIdBySocket_fst (tables : StreamTables)
    (addr : SockAddr) :
    (tables.getListIdBySocket addr).1 = tables.routes addr := rfl

@[simp] theorem lists_getListIdBySocket (tables : StreamTables)
    (addr : SockAddr) :
    (tables.getListIdBySocket addr).2.lists = tables.lists := rfl

@[simp] theorem routes_getListIdBySocket (tables : StreamTables)
    (addr : SockAddr) :
    (tables.getListIdBySocket addr).2.routes = tables.routes :=
  Table.subscript_touch _ _ _

@[simp] theorem getStreamListBySocket_fst (tables : StreamTables)
    (addr : SockAddr) :
    (tables.getStreamListBySocket addr).1 =
      tables.lists (tables.routes addr) := rfl

@[simp] theorem lists_getStreamListBySocket (tables : StreamTables)
    (addr : SockAddr) :
    (tables.getStreamListBySocket addr).2.lists = tables.lists := by
  simp [getStreamListBySocket]

@[simp] theorem routes_getStreamListBySocket (tables : StreamTables)
    (addr : SockAddr) :
    (tables.getStreamListBySocket addr).2.routes = tables.routes := by
  simp [getStreamListBySocket]

@[simp] theorem lists_modifyList (tables : StreamTables) (listId : Int)
    (list : StreamList) :
    (tables.modifyList listId list).lists =
      update tables.lists listId (some list) :=
  Table.subscript_insert _ _ _ _

@[simp] theorem routes_modifyList (tables : StreamTables) (listId : Int)
    (list : StreamList) :
    (tables.modifyList listId list).routes = tables.routes := rfl

theorem modifyList_modifyList (tables : StreamTables) (listId : Int)
    (first second : StreamList) :
    (tables.modifyList listId first).modifyList listId second =
      tables.modifyList listId second :=
  congrArg (StreamTables.mk · _) (AList.insert_insert tables.management)

@[simp] theorem lists_addStreamList (tables : StreamTables) (listId : Int)
    (list : StreamList) :
    (tables.addStreamList listId list).lists =
      update tables.lists listId (some list) :=
  Table.subscript_insert _ _ _ _

@[simp] theorem routes_addStreamList (tables : StreamTables) (listId : Int)
    (list : StreamList) :
    (tables.addStreamList listId list).routes =
      update tables.routes list.getSourceSockAddr listId :=
  Table.subscript_insert _ _ _ _

theorem removeStreamList_cases (tables : StreamTables) (listId : Int) :
    (tables.lists listId = none ∧
      tables.removeStreamList listId = .error .nullStreamList) ∨
    ∃ list removed, tables.lists listId = some list ∧
      tables.removeStreamList listId = .ok removed ∧
      removed.lists = update tables.lists listId none ∧
      removed.routes = update tables.routes list.getSourceSockAddr 0 := by
  unfold removeStreamList
  cases found : tables.lists listId with
  | none => exact .inl ⟨rfl, rfl⟩
  | some list =>
      exact .inr ⟨list, _, rfl, rfl, Table.subscript_erase _ _ _,
        Table.subscript_erase _ _ _⟩

theorem lookup_of_lists {tables : StreamTables} {listId : Int}
    {list : StreamList} (found : tables.lists listId = some list) :
    tables.management.lookup listId = some (some list) := by
  unfold lists Table.subscript at found
  cases stored : tables.management.lookup listId with
  | none => simp [stored] at found
  | some entry => simpa [stored] using found

theorem isEmpty_iff (tables : StreamTables) :
    tables.isEmpty = true ↔
      ∀ listId, tables.management.lookup listId = none := by
  rw [isEmpty, List.isEmpty_iff]
  exact Table.entries_eq_nil_iff tables.management

theorem isEmpty_eq_false {tables : StreamTables} {listId : Int}
    {list : StreamList} (found : tables.lists listId = some list) :
    tables.isEmpty = false := by
  rw [Bool.eq_false_iff, Ne, isEmpty_iff]
  intro empty
  simp [lists, Table.subscript, empty] at found

/-- The routes and the lists determine each other, with 0 as the identifier
of no list. -/
def RoutesAgree (tables : StreamTables) : Prop :=
  Index.Agree 0 StreamList.getSourceSockAddr tables.lists tables.routes

def RoutesSound (tables : StreamTables) : Prop :=
  Index.Sound 0 StreamList.getSourceSockAddr tables.lists tables.routes

def RoutesComplete (tables : StreamTables) : Prop :=
  Index.Complete 0 StreamList.getSourceSockAddr tables.lists tables.routes

def ZeroApart (tables : StreamTables) : Prop :=
  ∀ list, tables.lists 0 = some list → ∀ listId other, listId ≠ 0 →
    tables.lists listId = some other →
    other.getSourceSockAddr ≠ list.getSourceSockAddr

theorem ZeroApart.of_none {tables : StreamTables}
    (zero : tables.lists 0 = none) : tables.ZeroApart := by
  intro list found
  rw [zero] at found
  cases found

theorem routesAgree_empty : empty.RoutesAgree where
  sound := by
    intro place indexed
    exact absurd (routes_empty place) indexed
  complete := by
    intro key value _ found
    rw [lists_empty] at found
    cases found

end StreamTables

end StrManager
