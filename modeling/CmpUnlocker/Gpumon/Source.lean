import Mathlib.Data.Int.Notation
import CmpUnlocker.Lib.CText

/-!
# Selecting the source of gpumon

`select_backend` chooses between llama-server and Ollama and clears what has been learned from the old source when the
choice changes.  Some of what is displayed is not cleared: two states with the same source are displayed alike behind a
change if and only if they agree on those fields (`shown_select_iff`).
-/

namespace CmpUnlocker.Gpumon

open CText

/-! ### Data -/

structure OllamaModel where
  name : List Char := []
  parameterSize : List Char := []
  quantization : List Char := []
  family : List Char := []
  sizeBytes : ℕ := 0
  sizeVramBytes : ℕ := 0
  contextLoaded : ℕ := 0
  contextModelMax : ℕ := 0

inductive OllamaPhase
  | unknown
  | idle
  | prefill
  | generating
  deriving DecidableEq, Repr

/-- The values are those of a new state in `main`. -/
structure OllamaStats where
  apiOk : Bool := false
  endpoint : List Char := "http://127.0.0.1:11434".toList
  backend : List Char := "OLLAMA".toList
  profile : List Char := []
  llamaPid : ℤ := 0
  unsloth : Bool := false
  models : List OllamaModel := []
  modelCount : ℕ := 0
  phase : OllamaPhase := .unknown
  slotId : ℤ := -1
  taskId : ℤ := -1
  slotContext : ℕ := 0
  promptTokens : ℕ := 0
  promptProcessedTokens : ℕ := 0
  cachedPromptTokens : ℕ := 0
  promptTotalEst : ℕ := 0
  lastPromptTokens : ℕ := 0
  promptProgress : Float := 0
  promptTps : Float := 0
  lastPromptTps : Float := 0
  decodedTokens : ℕ := 0
  genTps : Float := 0
  genTps3s : Float := 0
  lastGenTps : Float := 0
  kvK : List Char := []
  kvV : List Char := []
  kvKDraft : List Char := []
  kvVDraft : List Char := []
  kvTotalMib : Float := 0
  kvKMib : Float := 0
  kvVMib : Float := 0
  flashAttn : ℤ := -1
  parallel : ℤ := 1
  batchSize : ℤ := 0
  ubatchSize : ℤ := 0
  specDraftNMax : ℤ := 0
  layersModel : ℤ := 0
  layersOffload : ℤ := 0
  gpuLayers : List Char := []
  gpuLayersDraft : List Char := []
  splitMode : List Char := []
  layersSplit : List Char := []
  specType : List Char := []
  metricPromptTokens : ℕ := 0
  metricCachedTokens : ℕ := 0
  metricPredictedTokens : ℕ := 0
  metricDraftTokens : ℕ := 0
  metricAcceptedTokens : ℕ := 0
  mtpAcceptancePct : Float := 0
  requestsProcessing : ℤ := 0
  requestsDeferred : ℤ := 0
  lastEvent : List Char := []
  lastActivity : ℤ × ℤ := (0, 0)

inductive BackendMode
  | auto
  | llama
  | ollama
  deriving DecidableEq, Repr

/-- What a look at the processes finds: the port and the process of a llama-server with a port, and the process that
`llama_find_pid` finds. -/
structure Discovery where
  server : Option (ℕ × ℤ)
  pid : ℤ

/-! ### Selection -/

/-- What is cleared for a new source. -/
def OllamaStats.clear (o : OllamaStats) : OllamaStats :=
  { o with
    apiOk := false
    phase := .unknown
    modelCount := 0
    profile := []
    lastEvent := []
    unsloth := false
    metricPromptTokens := 0
    metricCachedTokens := 0
    metricPredictedTokens := 0
    metricDraftTokens := 0
    metricAcceptedTokens := 0
    mtpAcceptancePct := 0
    requestsProcessing := 0
    requestsDeferred := 0
    kvK := []
    kvV := []
    kvKDraft := []
    kvVDraft := []
    splitMode := []
    layersSplit := []
    gpuLayers := []
    gpuLayersDraft := []
    specType := []
    batchSize := 0
    ubatchSize := 0
    specDraftNMax := 0
    kvTotalMib := 0
    kvKMib := 0
    kvVMib := 0 }

/-- The endpoint of a server on this host. -/
def localEndpoint (port : ℕ) : List Char := "http://127.0.0.1:".toList ++ Nat.toDigits 10 port

/-- `select_backend`: the state, the endpoint of llama-server and whether the source has changed. -/
def selectBackend (o : OllamaStats) (mode : BackendMode) (ollamaEndpoint llamaEndpoint : List Char)
    (llamaEndpointSize : ℕ) (discovery : Discovery) : OllamaStats × List Char × Bool :=
  let server := if mode = .ollama then none else discovery.server
  let llamaEndpoint := match server with
    | some (port, _) => snprintf llamaEndpointSize (snprintf 256 (localEndpoint port))
    | none => llamaEndpoint
  let selected :=
    if mode = .llama ∨ mode = .auto ∧ server.isSome then
      { o with
        backend := snprintf 24 "LLAMA".toList
        endpoint := snprintf 256 llamaEndpoint
        llamaPid := (server.map Prod.snd).getD discovery.pid }
    else
      { o with
        backend := snprintf 24 "OLLAMA".toList
        endpoint := snprintf 256 ollamaEndpoint
        llamaPid := -1 }
  let changed := decide (snprintf 24 o.backend ≠ selected.backend ∨ snprintf 256 o.endpoint ≠ selected.endpoint ∨
    o.llamaPid ≠ selected.llamaPid)
  (if changed then selected.clear else selected, llamaEndpoint, changed)

/-! ### What is displayed -/

/-- The fields that `print_json_snapshot` or `draw_ollama` read of the state. -/
structure Shown where
  apiOk : Bool
  endpoint : List Char
  backend : List Char
  profile : List Char
  llamaPid : ℤ
  unsloth : Bool
  models : List OllamaModel
  phase : OllamaPhase
  slotContext : ℕ
  promptTokens : ℕ
  promptProcessedTokens : ℕ
  cachedPromptTokens : ℕ
  promptTotalEst : ℕ
  lastPromptTokens : ℕ
  promptProgress : Float
  promptTps : Float
  lastPromptTps : Float
  decodedTokens : ℕ
  genTps : Float
  genTps3s : Float
  lastGenTps : Float
  kvK : List Char
  kvV : List Char
  kvKDraft : List Char
  kvVDraft : List Char
  kvTotalMib : Float
  kvKMib : Float
  kvVMib : Float
  flashAttn : ℤ
  parallel : ℤ
  batchSize : ℤ
  ubatchSize : ℤ
  specDraftNMax : ℤ
  layersModel : ℤ
  layersOffload : ℤ
  gpuLayers : List Char
  gpuLayersDraft : List Char
  splitMode : List Char
  layersSplit : List Char
  specType : List Char
  metricDraftTokens : ℕ
  metricAcceptedTokens : ℕ
  mtpAcceptancePct : Float
  lastEvent : List Char

/-- Of the models the counted ones are displayed. -/
def OllamaStats.shown (o : OllamaStats) : Shown where
  apiOk := o.apiOk
  endpoint := o.endpoint
  backend := o.backend
  profile := o.profile
  llamaPid := o.llamaPid
  unsloth := o.unsloth
  models := o.models.take o.modelCount
  phase := o.phase
  slotContext := o.slotContext
  promptTokens := o.promptTokens
  promptProcessedTokens := o.promptProcessedTokens
  cachedPromptTokens := o.cachedPromptTokens
  promptTotalEst := o.promptTotalEst
  lastPromptTokens := o.lastPromptTokens
  promptProgress := o.promptProgress
  promptTps := o.promptTps
  lastPromptTps := o.lastPromptTps
  decodedTokens := o.decodedTokens
  genTps := o.genTps
  genTps3s := o.genTps3s
  lastGenTps := o.lastGenTps
  kvK := o.kvK
  kvV := o.kvV
  kvKDraft := o.kvKDraft
  kvVDraft := o.kvVDraft
  kvTotalMib := o.kvTotalMib
  kvKMib := o.kvKMib
  kvVMib := o.kvVMib
  flashAttn := o.flashAttn
  parallel := o.parallel
  batchSize := o.batchSize
  ubatchSize := o.ubatchSize
  specDraftNMax := o.specDraftNMax
  layersModel := o.layersModel
  layersOffload := o.layersOffload
  gpuLayers := o.gpuLayers
  gpuLayersDraft := o.gpuLayersDraft
  splitMode := o.splitMode
  layersSplit := o.layersSplit
  specType := o.specType
  metricDraftTokens := o.metricDraftTokens
  metricAcceptedTokens := o.metricAcceptedTokens
  mtpAcceptancePct := o.mtpAcceptancePct
  lastEvent := o.lastEvent

/-- The states are of the same source. -/
structure SameSource (o o' : OllamaStats) : Prop where
  backend : o.backend = o'.backend
  endpoint : o.endpoint = o'.endpoint
  llamaPid : o.llamaPid = o'.llamaPid

/-- The states agree on the fields that are displayed and not cleared. -/
structure AgreeOnKept (o o' : OllamaStats) : Prop where
  slotContext : o.slotContext = o'.slotContext
  promptTokens : o.promptTokens = o'.promptTokens
  promptProcessedTokens : o.promptProcessedTokens = o'.promptProcessedTokens
  cachedPromptTokens : o.cachedPromptTokens = o'.cachedPromptTokens
  promptTotalEst : o.promptTotalEst = o'.promptTotalEst
  lastPromptTokens : o.lastPromptTokens = o'.lastPromptTokens
  promptProgress : o.promptProgress = o'.promptProgress
  promptTps : o.promptTps = o'.promptTps
  lastPromptTps : o.lastPromptTps = o'.lastPromptTps
  decodedTokens : o.decodedTokens = o'.decodedTokens
  genTps : o.genTps = o'.genTps
  genTps3s : o.genTps3s = o'.genTps3s
  lastGenTps : o.lastGenTps = o'.lastGenTps
  flashAttn : o.flashAttn = o'.flashAttn
  parallel : o.parallel = o'.parallel
  layersModel : o.layersModel = o'.layersModel
  layersOffload : o.layersOffload = o'.layersOffload

/-! ### Behind a change -/

section

variable {o o' : OllamaStats} {mode : BackendMode} {ollamaEndpoint llamaEndpoint : List Char} {size : ℕ}
  {discovery : Discovery}

/-- What is displayed of a cleared state with a given source. -/
theorem shown_clear_iff {backend endpoint : List Char} {pid : ℤ} :
    ({ o with backend := backend, endpoint := endpoint, llamaPid := pid } : OllamaStats).clear.shown =
      ({ o' with backend := backend, endpoint := endpoint, llamaPid := pid } : OllamaStats).clear.shown ↔
      AgreeOnKept o o' := by
  constructor
  · intro h
    exact {
      slotContext := congrArg Shown.slotContext h
      promptTokens := congrArg Shown.promptTokens h
      promptProcessedTokens := congrArg Shown.promptProcessedTokens h
      cachedPromptTokens := congrArg Shown.cachedPromptTokens h
      promptTotalEst := congrArg Shown.promptTotalEst h
      lastPromptTokens := congrArg Shown.lastPromptTokens h
      promptProgress := congrArg Shown.promptProgress h
      promptTps := congrArg Shown.promptTps h
      lastPromptTps := congrArg Shown.lastPromptTps h
      decodedTokens := congrArg Shown.decodedTokens h
      genTps := congrArg Shown.genTps h
      genTps3s := congrArg Shown.genTps3s h
      lastGenTps := congrArg Shown.lastGenTps h
      flashAttn := congrArg Shown.flashAttn h
      parallel := congrArg Shown.parallel h
      layersModel := congrArg Shown.layersModel h
      layersOffload := congrArg Shown.layersOffload h }
  · intro h
    obtain ⟨h₁, h₂, h₃, h₄, h₅, h₆, h₇, h₈, h₉, h₁₀, h₁₁, h₁₂, h₁₃, h₁₄, h₁₅, h₁₆, h₁₇⟩ := h
    simp only [OllamaStats.clear, OllamaStats.shown, h₁, h₂, h₃, h₄, h₅, h₆, h₇, h₈, h₉, h₁₀, h₁₁, h₁₂, h₁₃, h₁₄,
      h₁₅, h₁₆,
      h₁₇, List.take_zero]

/-- Behind a change two states of the same source are displayed alike if and only if they agree on what is not
cleared. -/
theorem shown_select_iff (hsame : SameSource o o')
    (hchanged : (selectBackend o mode ollamaEndpoint llamaEndpoint size discovery).2.2 = true) :
    (selectBackend o mode ollamaEndpoint llamaEndpoint size discovery).1.shown =
      (selectBackend o' mode ollamaEndpoint llamaEndpoint size discovery).1.shown ↔ AgreeOnKept o o' := by
  unfold selectBackend at hchanged ⊢
  dsimp only at hchanged ⊢
  rw [← hsame.backend, ← hsame.endpoint, ← hsame.llamaPid]
  generalize (if mode = .ollama then none else discovery.server) = server at hchanged ⊢
  by_cases hllama : mode = .llama ∨ mode = .auto ∧ server.isSome = true
  · simp only [if_pos hllama] at hchanged ⊢
    simp only [if_pos hchanged]
    exact shown_clear_iff
  · simp only [if_neg hllama] at hchanged ⊢
    simp only [if_pos hchanged]
    exact shown_clear_iff

end

/-! ### An example -/

/-- A new state in which a slot has been seen. -/
def seenSlot (context : ℕ) (event : String) : OllamaStats := { slotContext := context, lastEvent := event.toList }

/-- A llama-server with a port. -/
def oneServer : Discovery := ⟨some (8080, 4711), 4711⟩

private theorem seenSlot_changed (context : ℕ) (event : String) :
    (selectBackend (seenSlot context event) .auto [] [] 256 oneServer).2.2 = true := by
  have hbackend : snprintf 24 "OLLAMA".toList ≠ snprintf 24 "LLAMA".toList := by decide
  unfold selectBackend
  simp only [decide_eq_true_eq]
  exact Or.inl hbackend

theorem shown_select_iff_seenSlot :
    (selectBackend (seenSlot 4096 "new prompt") .auto [] [] 256 oneServer).1.shown =
      (selectBackend (seenSlot 4096 "stopped") .auto [] [] 256 oneServer).1.shown :=
  (shown_select_iff ⟨rfl, rfl, rfl⟩ (seenSlot_changed 4096 "new prompt")).2
    ⟨rfl, rfl, rfl, rfl, rfl, rfl, rfl, rfl, rfl, rfl, rfl, rfl, rfl, rfl, rfl, rfl, rfl⟩

/-- The context of a slot of the old source is displayed as that of the new one. -/
theorem slotContext_kept :
    ¬∀ (o o' : OllamaStats) (mode : BackendMode) (ollamaEndpoint llamaEndpoint : List Char) (size : ℕ)
      (discovery : Discovery), SameSource o o' →
      (selectBackend o mode ollamaEndpoint llamaEndpoint size discovery).2.2 = true →
      (selectBackend o mode ollamaEndpoint llamaEndpoint size discovery).1.shown =
        (selectBackend o' mode ollamaEndpoint llamaEndpoint size discovery).1.shown := by
  intro h
  have hshown :=
    h (seenSlot 4096 "") (seenSlot 8192 "") .auto [] [] 256 oneServer ⟨rfl, rfl, rfl⟩ (seenSlot_changed 4096 "")
  have hcontext : (4096 : ℕ) = 8192 := congrArg Shown.slotContext hshown
  omega

end CmpUnlocker.Gpumon
