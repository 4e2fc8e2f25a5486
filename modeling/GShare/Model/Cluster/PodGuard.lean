import Mathlib.Data.List.TakeWhile

/-! # The guard of the pods that pin a card

A pod may use a card without the device plugin: it names the card's UUID in `NVIDIA_VISIBLE_DEVICES` and requests
no `nvidia.com/gpu`. `PodLendGuard` admits such a pod only for a card that a yielded resident holds and that no
other session borrows. It reads one UUID from a pod; what a pod claims in this way is told apart here.
-/

namespace GShare.Model

structure EnvVar where
  name : String
  value : String
deriving DecidableEq, Repr

/-- A container: its environment, and whether its limits and its requests name `nvidia.com/gpu`. -/
structure Container where
  env : List EnvVar
  gpuLimit : Bool
  gpuRequest : Bool
deriving DecidableEq, Repr

structure OwnerReference where
  kind : String
  name : String
deriving DecidableEq, Repr

structure Pod where
  containers : List Container
  initContainers : List Container
  ownerReferences : List OwnerReference
deriving DecidableEq, Repr

/-- What the guard reads of a `GShareSession`. -/
structure LendRecord where
  name : String
  borrowedGpuUuid : String
  boundGpuUuid : String
  yieldState : String
  /-- It has a deletion timestamp. -/
  deleting : Bool
deriving DecidableEq, Repr

/-- White space as `strings.TrimSpace` knows it. -/
def isGoSpace (char : Char) : Bool :=
  let code := char.toNat
  (9 ≤ code && code ≤ 13) || (0x2000 ≤ code && code ≤ 0x200A)
    || code ∈ [0x20, 0x85, 0xA0, 0x1680, 0x2028, 0x2029, 0x202F, 0x205F, 0x3000]

def trimSpace (text : List Char) : List Char :=
  ((text.dropWhile isGoSpace).reverse.dropWhile isGoSpace).reverse

def namesCard (text : List Char) : Bool := "GPU-".toList.isPrefixOf text

/-- The card that the guard takes from a value: the first of a comma list. -/
def pinnedCard? (value : String) : Option String :=
  let text := trimSpace value.toList
  if namesCard text then some (String.ofList (text.takeWhile (· != ','))) else none

def cardsNamed (value : String) : List String :=
  (((value.toList.splitOn ',').map trimSpace).filter namesCard).map String.ofList

namespace EnvVar

def isVisibleDevices (var : EnvVar) : Bool := var.name == "NVIDIA_VISIBLE_DEVICES"

def pinned? (var : EnvVar) : Option String := if var.isVisibleDevices then pinnedCard? var.value else none

end EnvVar

namespace Container

def requestsGpu (container : Container) : Bool := container.gpuLimit || container.gpuRequest

def claims (container : Container) : List String :=
  if container.requestsGpu then []
  else (container.env.filter EnvVar.isVisibleDevices).flatMap fun var => cardsNamed var.value

end Container

namespace Pod

/-- `bypassGPUUUID`; the empty text is `none`. -/
def bypassGpuUuid (pod : Pod) : Option String :=
  if pod.containers.any Container.requestsGpu then none
  else pod.containers.findSome? fun container => container.env.findSome? EnvVar.pinned?

def controllerSessionName (pod : Pod) : String :=
  ((pod.ownerReferences.find? (·.kind == "GShareSession")).map OwnerReference.name).getD ""

/-- The cards that the pod claims past the device plugin. -/
def claims (pod : Pod) : List String := (pod.initContainers ++ pod.containers).flatMap Container.claims

end Pod

namespace LendRecord

/-- A yielded resident that holds the card. -/
def lends (record : LendRecord) (uuid : String) : Bool :=
  record.boundGpuUuid == uuid && (record.yieldState == "Yielded" || record.yieldState == "Lent")

/-- A session other than the owner that borrows the card. -/
def borrows (record : LendRecord) (owner uuid : String) : Bool :=
  record.borrowedGpuUuid == uuid && record.name != owner && !record.deleting

end LendRecord

/-- `PodLendGuard.Handle`, with the sessions that it lists. -/
def podLendGuard (sessions : List LendRecord) (pod : Pod) : Except String Unit :=
  match pod.bypassGpuUuid with
  | none => .ok ()
  | some uuid =>
    if !sessions.any (·.lends uuid) then
      .error ("GPU " ++ uuid ++ " is not a yielded/lendable card (no yielded resident holds it)")
    else if sessions.any (·.borrows pod.controllerSessionName uuid) then
      .error ("GPU " ++ uuid ++ " is already lent to another spot session (one bypass Pod per card)")
    else .ok ()

structure GuardedPods where
  sessions : List LendRecord
  pods : List Pod

inductive PodEvent where
  /-- The resources of the sessions change. -/
  | resources (sessions : List LendRecord)
  | arrive (pod : Pod)
  | gone (index : ℕ)

namespace GuardedPods

def step (state : GuardedPods) : PodEvent → Option GuardedPods
  | .resources sessions => some { state with sessions := sessions }
  | .arrive pod =>
    match podLendGuard state.sessions pod with
    | .ok () => some { state with pods := state.pods ++ [pod] }
    | .error _ => none
  | .gone index => some { state with pods := state.pods.eraseIdx index }

end GuardedPods

end GShare.Model
