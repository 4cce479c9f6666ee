import Procon.Construction.FineTuning
import Procon.Properties.EpochLoss

/-!
# Which parameters are trained, and by what

Torch's gradients outlive the iteration that computes them, and `backward` adds to whatever it
finds.  `gradients_of_own_batch` says that none of this shows: the training of `bert.py` goes
exactly as the loop of `TrainModel` does over a network whose parameters are updated by the
gradient of the current batch alone, whatever gradients were left before the training or are left
by any of its iterations.  It holds because the parameters that require a gradient and those of
the optimizer are the same ones, and the loop clears their gradients in each iteration.

`frozen_parameters_kept` says that the training leaves everything alone that torch keeps with the
other parameters.
-/

namespace Procon.TrainModel

open PointwiseLoop

variable {P V σ Sample Net Net' : Type*}

/-! ## One training follows another -/

section Simulation

variable {R : Net → Net' → Prop} {learner : Learner Net Sample} {learner' : Learner Net' Sample}
  {phase : Phase}

/-- Related networks compute the same figures, and an iteration keeps them related. -/
structure Follows (R : Net → Net' → Prop) (learner : Learner Net Sample)
    (learner' : Learner Net' Sample) : Prop where
  device : learner.device = learner'.device
  sampleLoss : ∀ phase net net', R net net' →
    learner.sampleLoss phase net = learner'.sampleLoss phase net'
  correct : ∀ phase net net', R net net' →
    learner.correct phase net = learner'.correct phase net'
  zero_grad : ∀ net net', R net net' → R (learner.zero_grad net) (learner'.zero_grad net')
  next : ∀ phase net net' batch, R net net' →
    R (learner.next phase net batch) (learner'.next phase net' batch)

/-- Two states of the batch loop that differ in their networks only. -/
structure SameLoop (R : Net → Net' → Prop) (vars : BatchLoop Net) (vars' : BatchLoop Net') :
    Prop where
  net : R vars.net vars'.net
  epoch_loss : vars.epoch_loss = vars'.epoch_loss
  epoch_corrects : vars.epoch_corrects = vars'.epoch_corrects
  iteration : vars.iteration = vars'.iteration
  printed : vars.printed = vars'.printed

/-- Two trainings that have printed the same. -/
structure SameTrainingState (R : Net → Net' → Prop) (training : Training Net)
    (training' : Training Net') : Prop where
  net : R training.net training'.net
  printed : training.printed = training'.printed
  raised : training.raised = training'.raised

variable (h : Follows R learner learner')

include h

lemma Follows.step {vars : BatchLoop Net} {vars' : BatchLoop Net'} (hvars : SameLoop R vars vars')
    (batch_size : ℕ) (batch : List Sample) :
    SameLoop R (BatchLoop.step learner phase batch_size vars batch)
      (BatchLoop.step learner' phase batch_size vars' batch) := by
  have hcleared := h.zero_grad _ _ hvars.net
  have hloss : learner.criterion phase (learner.zero_grad vars.net) batch =
      learner'.criterion phase (learner'.zero_grad vars'.net) batch := by
    unfold Learner.criterion Learner.losses
    rw [h.sampleLoss phase _ _ hcleared]
  have hcorrects : learner.corrects phase (learner.zero_grad vars.net) batch =
      learner'.corrects phase (learner'.zero_grad vars'.net) batch := by
    unfold Learner.corrects
    rw [h.correct phase _ _ hcleared]
  unfold BatchLoop.step
  dsimp only
  rw [hloss, hcorrects, hvars.epoch_loss, hvars.epoch_corrects, hvars.iteration, hvars.printed]
  exact ⟨h.next phase _ _ batch hvars.net, rfl, rfl, rfl, rfl⟩

lemma Follows.batchLoop {net : Net} {net' : Net'} (hnet : R net net') (batch_size : ℕ)
    (batches : List (List Sample)) :
    SameLoop R (batchLoop learner phase batch_size batches net)
      (batchLoop learner' phase batch_size batches net') :=
  List.foldl_rel ⟨hnet, rfl, rfl, rfl, rfl⟩ fun batch _ _ _ hvars =>
    h.step hvars batch_size batch

lemma Follows.runPhase {training : Training Net} {training' : Training Net'}
    (htraining : SameTrainingState R training training') (dataloaders_dict : Dataloaders Sample)
    (num_epochs epoch : ℕ) :
    SameTrainingState R (runPhase learner dataloaders_dict num_epochs epoch training phase)
      (runPhase learner' dataloaders_dict num_epochs epoch training' phase) := by
  have hloop : SameLoop R
      (TrainModel.batchLoop learner phase (dataloaders_dict.get .train).batch_size
        ((dataloaders_dict.get phase).batches epoch) training.net)
      (TrainModel.batchLoop learner' phase (dataloaders_dict.get .train).batch_size
        ((dataloaders_dict.get phase).batches epoch) training'.net) :=
    h.batchLoop htraining.net _ _
  unfold TrainModel.runPhase
  dsimp only
  rw [hloop.epoch_loss, hloop.epoch_corrects, hloop.printed, htraining.printed, htraining.raised]
  split
  · exact htraining
  · split
    · exact ⟨hloop.net, rfl, rfl⟩
    · exact ⟨hloop.net, rfl, rfl⟩

/-- **The run lemma.** -/
lemma Follows.train_model {net : Net} {net' : Net'} (hnet : R net net')
    (dataloaders_dict : Dataloaders Sample) (num_epochs : ℕ) :
    SameTrainingState R (train_model learner dataloaders_dict num_epochs net)
      (train_model learner' dataloaders_dict num_epochs net') := by
  have hstart : SameTrainingState R (.start learner net) (.start learner' net') := by
    refine ⟨hnet, ?_, rfl⟩
    unfold Training.start
    rw [h.device]
  refine List.foldl_rel hstart fun epoch _ _ _ htraining => ?_
  exact List.foldl_rel htraining fun phase _ _ _ htraining =>
    h.runPhase htraining dataloaders_dict num_epochs epoch

end Simulation

/-! ## What an iteration does to a parameter -/

/-- The parameters of the last layer and of the classifier. -/
def BertForLivedoor.Trains (net : BertForLivedoor P) (p : P) : Prop :=
  p ∈ net.lastLayer ∨ p ∈ net.cls

section Iteration

variable [DecidableEq P] {net : BertForLivedoor P} {p : P} {θ : P → Parameter V σ}

instance : Decidable (net.Trains p) := inferInstanceAs (Decidable (_ ∨ _))

/-- The learning rate of a parameter that is trained. -/
def BertForLivedoor.lr (net : BertForLivedoor P) (p : P) : ℚ :=
  if p ∈ net.lastLayer then 5e-5 else 1e-4

omit [DecidableEq P] in
lemma lastLayer_mem : net.lastLayer ∈ net.layer := List.getLast_mem net.layer_ne_nil

/-- A pass of the optimizer over its groups rewrites each parameter that is trained once. -/
lemma forEach_param_groups {f : ℚ → Parameter V σ → Parameter V σ} :
    (net.param_groups.foldl (fun θ group => forEach (fun _ => f group.2) group.1 θ) θ) p =
      if net.Trains p then f (net.lr p) (θ p) else θ p := by
  show forEach (fun _ => f 1e-4) net.cls (forEach (fun _ => f 5e-5) net.lastLayer θ) p = _
  rw [forEach_apply net.cls_nodup, forEach_apply (net.layer_nodup _ lastLayer_mem)]
  unfold BertForLivedoor.lr
  by_cases hlayer : p ∈ net.lastLayer
  · have hcls : p ∉ net.cls := net.layer_disjoint_cls _ lastLayer_mem hlayer
    have htrains : net.Trains p := Or.inl hlayer
    rw [if_neg hcls, if_pos hlayer, if_pos htrains, if_pos hlayer]
  · by_cases hcls : p ∈ net.cls
    · have htrains : net.Trains p := Or.inr hcls
      rw [if_pos hcls, if_neg hlayer, if_pos htrains, if_neg hlayer]
    · have htrains : ¬ net.Trains p := fun h => h.elim hlayer hcls
      rw [if_neg hcls, if_neg hlayer, if_neg htrains]

/-- After the three loops the parameters that are trained are those that require a gradient. -/
lemma freeze_apply :
    net.freeze θ p = { θ p with requires_grad := decide (net.Trains p) } := by
  unfold BertForLivedoor.freeze setRequiresGrad BertForLivedoor.Trains
  rw [forEach_apply net.cls_nodup, forEach_apply (net.layer_nodup _ lastLayer_mem),
    forEach_apply net.parameters_nodup, if_pos (net.mem_parameters p)]
  by_cases hcls : p ∈ net.cls <;> by_cases hlayer : p ∈ net.lastLayer <;> simp [hcls, hlayer]

variable [AddMonoid V] {torch : Torch P V σ Sample} {batch : List Sample}

lemma zero_grad_apply : zero_grad net.param_groups θ p =
    if net.Trains p then { θ p with grad := (θ p).grad.map fun _ => 0 } else θ p :=
  forEach_param_groups
    (f := fun _ (param : Parameter V σ) => { param with grad := param.grad.map fun _ => 0 })

/-- Clearing the gradients changes nothing else. -/
lemma data_zero_grad : (zero_grad net.param_groups θ p).data = (θ p).data ∧
    (zero_grad net.param_groups θ p).state = (θ p).state ∧
    (zero_grad net.param_groups θ p).requires_grad = (θ p).requires_grad := by
  rw [zero_grad_apply]
  split <;> exact ⟨rfl, rfl, rfl⟩

/-- What the parameters hold when `backward` has run: the gradient of the batch, and no more. -/
lemma backward_zero_grad (hgrad : (θ p).requires_grad = decide (net.Trains p)) :
    torch.backward batch (zero_grad net.param_groups θ) p =
      if net.Trains p then
        { θ p with grad := some (torch.gradient (fun q => (θ q).data) batch p) }
      else θ p := by
  have hdata : (fun q => (zero_grad net.param_groups θ q).data) = fun q => (θ q).data :=
    funext fun q => data_zero_grad.1
  unfold Torch.backward
  rw [data_zero_grad.2.2, hgrad, hdata, zero_grad_apply]
  by_cases htrains : net.Trains p
  · rw [if_pos (decide_eq_true htrains), if_pos htrains, if_pos htrains]
    -- a cleared gradient counts for nothing, be it a zero or none
    have hzero : (((θ p).grad.map fun _ => (0 : V)).getD 0) = 0 := by
      cases (θ p).grad <;> rfl
    dsimp only
    rw [hzero, zero_add]
  · rw [if_neg (by simpa using htrains), if_neg htrains, if_neg htrains]

/-- An iteration of training updates each parameter that is trained by the gradient of its own
batch, and leaves the others alone. -/
lemma next_train_apply (hgrad : ∀ p, (θ p).requires_grad = decide (net.Trains p)) :
    (torch.network net.param_groups).next .train θ batch p =
      if net.Trains p then
        let grad := torch.gradient (fun q => (θ q).data) batch p
        let next := torch.adam (net.lr p) (θ p).state (θ p).data grad
        { θ p with data := next.1, state := next.2, grad := some grad }
      else θ p := by
  unfold Learner.next
  rw [if_pos rfl]
  show torch.step net.param_groups (torch.backward batch (zero_grad net.param_groups θ)) p = _
  unfold Torch.step
  rw [forEach_param_groups (f := torch.update), backward_zero_grad (hgrad p)]
  by_cases htrains : net.Trains p
  · rw [if_pos htrains, if_pos htrains, if_pos htrains]
    rfl
  · rw [if_neg htrains, if_neg htrains, if_neg htrains]

lemma next_val : (torch.network net.param_groups).next .val θ batch =
    zero_grad net.param_groups θ :=
  if_neg nofun

end Iteration

/-! ## Whole trainings -/

section Training

variable [DecidableEq P]

/-- The network without gradients: what its parameters and the optimizer hold.  A step of the
optimizer updates each parameter that is trained by the gradient of the batch. -/
def Torch.learner (torch : Torch P V σ Sample) (net : BertForLivedoor P) :
    Learner ((P → V) × (P → σ)) Sample where
  device := torch.device
  sampleLoss phase params := torch.sampleLoss phase params.1
  correct phase params := torch.correct phase params.1
  zero_grad := id
  zero_grad_zero_grad _ := rfl
  optimize params batch :=
    let update p := torch.adam (net.lr p) (params.2 p) (params.1 p)
      (torch.gradient params.1 batch p)
    (fun p => if net.Trains p then (update p).1 else params.1 p,
      fun p => if net.Trains p then (update p).2 else params.2 p)

/-- The parameters hold what the network without gradients holds; those that are trained require a
gradient, and the others are as they were. -/
structure Trained (net : BertForLivedoor P) (start θ : P → Parameter V σ)
    (params : (P → V) × (P → σ)) : Prop where
  data : ∀ p, (θ p).data = params.1 p
  state : ∀ p, (θ p).state = params.2 p
  requires_grad : ∀ p, (θ p).requires_grad = decide (net.Trains p)
  frozen : ∀ p, ¬ net.Trains p → θ p = start p

variable [AddMonoid V] {torch : Torch P V σ Sample} {net : BertForLivedoor P}
  {start θ : P → Parameter V σ} {params : (P → V) × (P → σ)} {batch : List Sample}

lemma Trained.next_train (h : Trained net start θ params) :
    Trained net start ((torch.network net.param_groups).next .train θ batch)
      ((torch.learner net).next .train params batch) := by
  have hnext : ∀ p, (torch.network net.param_groups).next .train θ batch p = _ :=
    fun p => next_train_apply h.requires_grad
  simp only [h.data, h.state] at hnext
  refine ⟨fun p => ?_, fun p => ?_, fun p => ?_, fun p hfrozen => ?_⟩
  · rw [hnext]
    unfold Learner.next Torch.learner
    by_cases htrains : net.Trains p
    · simp [htrains]
    · simp [htrains, h.data]
  · rw [hnext]
    unfold Learner.next Torch.learner
    by_cases htrains : net.Trains p
    · simp [htrains]
    · simp [htrains, h.state]
  · rw [hnext]
    split <;> exact h.requires_grad p
  · rw [hnext, if_neg hfrozen]
    exact h.frozen p hfrozen

lemma Trained.zero_grad (h : Trained net start θ params) :
    Trained net start (zero_grad net.param_groups θ) params := by
  refine ⟨fun p => ?_, fun p => ?_, fun p => ?_, fun p hfrozen => ?_⟩
  · rw [data_zero_grad.1, h.data]
  · rw [data_zero_grad.2.1, h.state]
  · rw [data_zero_grad.2.2, h.requires_grad]
  · rw [zero_grad_apply, if_neg hfrozen, h.frozen p hfrozen]

/-- **The step lemma.** -/
lemma follows_learner (torch : Torch P V σ Sample) (net : BertForLivedoor P)
    (start : P → Parameter V σ) :
    Follows (Trained net start) (torch.network net.param_groups) (torch.learner net) where
  device := rfl
  sampleLoss phase θ params h := congrArg (torch.sampleLoss phase) (funext h.data)
  correct phase θ params h := congrArg (torch.correct phase) (funext h.data)
  zero_grad θ params h := h.zero_grad
  next phase θ params batch h := by
    cases phase with
    | train => exact h.next_train
    | val =>
        rw [next_val]
        exact h.zero_grad

omit [AddMonoid V] in
lemma trained_freeze (net : BertForLivedoor P) (θ : P → Parameter V σ) :
    Trained net (net.freeze θ) (net.freeze θ) (fun p => (θ p).data, fun p => (θ p).state) where
  data p := by rw [freeze_apply]
  state p := by rw [freeze_apply]
  requires_grad p := by rw [freeze_apply]
  frozen _ _ := rfl

/-- **Each step uses the gradient of its own batch.**  Whatever gradients torch keeps when the
training starts, it prints what the loop prints over a network that keeps no gradients and whose
last layer and classifier are updated by the gradient of the current batch, and its parameters and
the state of its optimizer end as those of that network do. -/
theorem gradients_of_own_batch (torch : Torch P V σ Sample) (net : BertForLivedoor P)
    (dataloaders_dict : Dataloaders Sample) (num_epochs : ℕ) (θ : P → Parameter V σ) :
    let trained := torch.train_model net dataloaders_dict num_epochs θ
    let model := TrainModel.train_model (torch.learner net) dataloaders_dict num_epochs
      (fun p => (θ p).data, fun p => (θ p).state)
    trained.printed = model.printed ∧
      (fun p => (trained.net p).data) = model.net.1 ∧
      (fun p => (trained.net p).state) = model.net.2 := by
  intro trained model
  have h : SameTrainingState (Trained net (net.freeze θ)) trained model :=
    (follows_learner torch net _).train_model (trained_freeze net θ) dataloaders_dict num_epochs
  exact ⟨h.printed, funext h.net.data, funext h.net.state⟩

/-- **The other parameters are kept.**  No training, however long and on whatever data, changes
anything that torch keeps with a parameter outside the last layer and the classifier: its value,
its gradient and its state in the optimizer are those from before. -/
theorem frozen_parameters_kept (torch : Torch P V σ Sample) (net : BertForLivedoor P)
    (dataloaders_dict : Dataloaders Sample) (num_epochs : ℕ) (θ : P → Parameter V σ) (p : P)
    (hlayer : p ∉ net.lastLayer) (hcls : p ∉ net.cls) :
    (torch.train_model net dataloaders_dict num_epochs θ).net p =
      { θ p with requires_grad := false } := by
  have htrains : ¬ net.Trains p := fun h => h.elim hlayer hcls
  have h := (follows_learner torch net _).train_model (trained_freeze net θ) dataloaders_dict
    num_epochs
  rw [Torch.train_model, h.net.frozen p htrains, freeze_apply]
  simp [htrains]

end Training

/-! ### Three parameters -/

/-- Two layers and a classifier of one parameter each. -/
def threeParameters : BertForLivedoor (Fin 3) where
  parameters := [0, 1, 2]
  layer := [[0], [1]]
  cls := [2]
  layer_ne_nil := by simp
  mem_parameters := by decide
  parameters_nodup := by decide
  layer_nodup := by decide
  cls_nodup := by decide
  layer_disjoint_cls := by simp [List.Disjoint]

/-- Every parameter is its own gradient, and an update subtracts it. -/
def descent : Torch (Fin 3) ℚ Unit ℚ where
  device := .cpu
  sampleLoss _ params sample := params 0 * sample
  correct _ _ _ := true
  gradient params _ := params
  adam _ state data grad := (data - grad, state)

/-- A parameter with a gradient that is left from before. -/
def staleParameter (_ : Fin 3) : Parameter ℚ Unit := ⟨2, some 5, true, ()⟩

theorem frozen_parameters_kept_threeParameters :
    ((descent.train_model threeParameters threeSampleLoaders 1 staleParameter).net 0).grad =
        some 5 ∧
      ((descent.train_model threeParameters threeSampleLoaders 1 staleParameter).net 0).data =
        2 := by
  rw [frozen_parameters_kept descent threeParameters threeSampleLoaders 1 staleParameter 0
    (by decide) (by decide)]
  exact ⟨rfl, rfl⟩

end Procon.TrainModel
