import Procon.Properties.EpochLoss
import Mathlib.Algebra.Order.Field.Basic
import Mathlib.Algebra.Order.Ring.Rat
import Mathlib.Data.List.Count

/-!
# What the training prints

`EpochLoss` is about the loss of an epoch.  Here are the other figures and the order of the lines,
for datasets that are not empty.  The accuracy of an epoch is counted sample by sample, so that a
short batch does it no harm (`epoch_accuracy`), while the loss counts the samples that the last
batch lacks as if each had the mean loss of that batch (`epoch_loss_excess`).  `printed_lines` lists
the lines of a whole training, and `validation_never_trains` says that neither the network nor what
is printed about training depends on the validation data.
-/

namespace Procon.TrainModel

open Batches

variable {Net Sample : Type*} (learner learner' : Learner Net Sample)
  (dataloaders_dict dataloaders_dict' : Dataloaders Sample) (num_epochs : ℕ) (net : Net)

/-! ## The accuracy of an epoch -/

/-- What a line is about, without its figures. -/
inductive LineKind
  | device (device : Device)
  | start
  | iteration (iteration : ℕ)
  | epoch (epoch num_epochs : ℕ) (phase : Phase)
  deriving DecidableEq

def Line.kind : Line → LineKind
  | .device d => .device d
  | .start => .start
  | .iteration i _ _ => .iteration i
  | .epoch e n phase _ _ => .epoch e n phase

/-- The lines of the iterations up to some number, one for every ten. -/
def iterationLines (n : ℕ) : List LineKind :=
  (List.range (n / 10)).map fun k => .iteration (10 * (k + 1))

lemma iterationLines_succ (n : ℕ) :
    iterationLines (n + 1) =
      if (n + 1) % 10 = 0 then iterationLines n ++ [.iteration (n + 1)] else iterationLines n := by
  unfold iterationLines
  split
  · rename_i hten
    have hdiv : (n + 1) / 10 = n / 10 + 1 := by omega
    have hlast : 10 * (n / 10 + 1) = n + 1 := by omega
    rw [hdiv, List.range_succ, List.map_append, List.map_singleton, hlast]
  · rename_i hten
    have hdiv : (n + 1) / 10 = n / 10 := by omega
    rw [hdiv]

/-- The invariant of the batch loop: `iteration` counts the batches from one, and every tenth batch
of a training pass has printed its line. -/
lemma kinds_foldl (phase : Phase) (batch_size : ℕ) (batches : List (List Sample)) (n : ℕ)
    (vars : BatchLoop Net) (hiteration : vars.iteration = n + 1)
    (hprinted : vars.printed.map Line.kind = if phase = .train then iterationLines n else []) :
    (batches.foldl (BatchLoop.step learner phase batch_size) vars).printed.map Line.kind =
      if phase = .train then iterationLines (n + batches.length) else [] := by
  induction batches generalizing vars n with
  | nil => exact hprinted
  | cons batch rest ih =>
      rw [List.foldl_cons, List.length_cons, ← Nat.add_assoc, Nat.add_right_comm]
      refine ih (n + 1) _ (congrArg (· + 1) hiteration) ?_
      unfold BatchLoop.step
      dsimp only
      rw [hiteration]
      by_cases htrain : phase = .train
      · rw [if_pos htrain] at hprinted
        rw [if_pos htrain, iterationLines_succ]
        by_cases hten : (n + 1) % 10 = 0
        · rw [if_pos ⟨htrain, hten⟩, if_pos hten, List.map_append, hprinted]
          rfl
        · rw [if_neg fun hboth => hten hboth.2, if_neg hten, hprinted]
      · rw [if_neg htrain] at hprinted
        rw [if_neg htrain, if_neg fun hboth => htrain hboth.1, hprinted]

lemma kinds_loopOf (epoch : ℕ) (phase : Phase) :
    (loopOf learner dataloaders_dict num_epochs net epoch phase).printed.map Line.kind =
      if phase = .train then iterationLines ((dataloaders_dict.get phase).batches epoch).length
      else [] := by
  have hfold := kinds_foldl learner phase (dataloaders_dict.get .train).batch_size
    ((dataloaders_dict.get phase).batches epoch) 0
    (.start (beforePhase learner dataloaders_dict num_epochs net epoch phase).net) rfl
    (by split <;> rfl)
  rwa [Nat.zero_add] at hfold

/-- **The lines of a training.**  It prints the device and a start line.  Then every epoch prints a
line for each tenth of its training batches, of which there are as many as it takes to hold the
training data, one line for the training and one for the validation, and nothing else is printed. -/
theorem printed_lines (learner : Learner Net Sample) (dataloaders_dict : Dataloaders Sample)
    (num_epochs : ℕ) (net : Net)
    (hdataset : ∀ phase, 0 < (dataloaders_dict.get phase).dataset.length) :
    let batch_size := dataloaders_dict.dl_train.batch_size
    let batches := (dataloaders_dict.dl_train.dataset.length + (batch_size - 1)) / batch_size
    (train_model learner dataloaders_dict num_epochs net).printed.map Line.kind =
      [.device learner.device, .start] ++ (List.range num_epochs).flatMap fun epoch =>
        (List.range (batches / 10)).map (fun k => .iteration (10 * (k + 1))) ++
          [.epoch (epoch + 1) num_epochs .train, .epoch (epoch + 1) num_epochs .val] := by
  intro batch_size batches
  show (beforeEpoch learner dataloaders_dict num_epochs net num_epochs).printed.map _ = _
  rw [printed_beforeEpoch hdataset, List.map_append, List.map_flatMap]
  show [LineKind.device learner.device, .start] ++ _ = _
  refine congrArg _ (List.flatMap_congr fun epoch _ => ?_)
  have hbatches : (dataloaders_dict.dl_train.batches epoch).length = batches := by
    rw [(dataloaders_dict.dl_train.batched epoch).length_eq
        dataloaders_dict.dl_train.batch_size_pos,
      (dataloaders_dict.dl_train.yields_dataset epoch).length_eq]
  have htrain : (linesOf learner dataloaders_dict num_epochs net epoch .train).map Line.kind =
      iterationLines batches ++ [.epoch (epoch + 1) num_epochs .train] := by
    unfold linesOf
    rw [List.map_append, kinds_loopOf, if_pos rfl, ← hbatches]
    rfl
  have hval : (linesOf learner dataloaders_dict num_epochs net epoch .val).map Line.kind =
      [.epoch (epoch + 1) num_epochs .val] := by
    unfold linesOf
    rw [List.map_append, kinds_loopOf, if_neg nofun]
    rfl
  rw [List.map_append, htrain, hval, List.append_assoc]
  rfl

/-! ## What the training depends on -/

/-- A line about training. -/
def Line.isTraining : Line → Bool
  | .device .. | .start => false
  | .iteration .. => true
  | .epoch _ _ phase _ _ => phase = .train

/-- Two learners that compute and optimize the same while they train. -/
structure SameTraining (learner learner' : Learner Net Sample) : Prop where
  sampleLoss : learner'.sampleLoss .train = learner.sampleLoss .train
  correct : learner'.correct .train = learner.correct .train
  zero_grad : learner'.zero_grad = learner.zero_grad
  optimize : learner'.optimize = learner.optimize

/-- Two trainings that go on and agree on everything but validation. -/
structure AgreeOnTraining (training training' : Training Net) : Prop where
  net : training'.net = training.net
  printed : training'.printed.filter Line.isTraining = training.printed.filter Line.isTraining
  raised : training.raised = false
  raised' : training'.raised = false

variable {learner learner' dataloaders_dict dataloaders_dict' num_epochs}
  {training training' : Training Net} {epoch : ℕ}

/-- A training step looks at the learner in training mode only. -/
lemma SameTraining.step (hlearner : SameTraining learner learner') (batch_size : ℕ)
    (vars : BatchLoop Net) (batch : List Sample) :
    BatchLoop.step learner' .train batch_size vars batch =
      BatchLoop.step learner .train batch_size vars batch := by
  unfold BatchLoop.step Learner.criterion Learner.losses Learner.corrects Learner.next
  rw [hlearner.sampleLoss, hlearner.correct, hlearner.zero_grad, hlearner.optimize]

lemma SameTraining.batchLoop (hlearner : SameTraining learner learner') (batch_size : ℕ)
    (batches : List (List Sample)) (net : Net) :
    batchLoop learner' .train batch_size batches net =
      batchLoop learner .train batch_size batches net := by
  unfold TrainModel.batchLoop
  exact List.foldl_ext _ _ _ fun vars batch _ => hlearner.step batch_size vars batch

/-- A validation step clears the gradients and prints nothing. -/
lemma step_val (learner : Learner Net Sample) (batch_size : ℕ) (vars : BatchLoop Net)
    (batch : List Sample) :
    (BatchLoop.step learner .val batch_size vars batch).net = learner.zero_grad vars.net ∧
      (BatchLoop.step learner .val batch_size vars batch).printed = vars.printed := by
  have hval : Phase.val ≠ .train := nofun
  have hline : ¬ (Phase.val = .train ∧ vars.iteration % 10 = 0) := fun hboth => hval hboth.1
  unfold BatchLoop.step Learner.next
  dsimp only
  rw [if_neg hval, if_neg hline]
  exact ⟨rfl, rfl⟩

/-- A validation pass over some batches clears the gradients and prints nothing. -/
lemma foldl_val (learner : Learner Net Sample) (batch_size : ℕ) (batch : List Sample)
    (rest : List (List Sample)) (vars : BatchLoop Net) :
    ((batch :: rest).foldl (BatchLoop.step learner .val batch_size) vars).net =
        learner.zero_grad vars.net ∧
      ((batch :: rest).foldl (BatchLoop.step learner .val batch_size) vars).printed =
        vars.printed := by
  induction rest generalizing batch vars with
  | nil => exact step_val learner batch_size vars batch
  | cons batch' rest ih =>
      obtain ⟨hnet, hprinted⟩ := step_val learner batch_size vars batch
      obtain ⟨hnet', hprinted'⟩ := ih batch' (BatchLoop.step learner .val batch_size vars batch)
      rw [List.foldl_cons]
      refine ⟨?_, hprinted'.trans hprinted⟩
      rw [hnet', hnet, learner.zero_grad_zero_grad]

lemma Iterator.batches_ne_nil (iterator : Iterator Sample) (h : 0 < iterator.dataset.length)
    (pass : ℕ) : iterator.batches pass ≠ [] := by
  intro hnil
  have hperm := iterator.yields_dataset pass
  rw [hnil, List.flatten_nil] at hperm
  exact Nat.ne_of_gt h hperm.length_eq.symm

/-- A validation phase clears the gradients, and prints nothing about training. -/
lemma runPhase_val (learner : Learner Net Sample) (num_epochs epoch : ℕ)
    (hdataset : ∀ phase, 0 < (dataloaders_dict.get phase).dataset.length)
    (h : training.raised = false) :
    let validated := runPhase learner dataloaders_dict num_epochs epoch training .val
    validated.net = learner.zero_grad training.net ∧
      validated.printed.filter Line.isTraining = training.printed.filter Line.isTraining ∧
      validated.raised = false := by
  intro validated
  obtain ⟨batch, rest, hbatches⟩ := List.exists_cons_of_ne_nil
    ((dataloaders_dict.get .val).batches_ne_nil (hdataset .val) epoch)
  obtain ⟨hnet, hprinted⟩ := foldl_val learner (dataloaders_dict.get .train).batch_size batch rest
    (.start training.net)
  have hvalidated : validated = _ := runPhase_of_raised_eq_false hdataset h epoch .val
  unfold batchLoop at hvalidated
  rw [hbatches, hnet, hprinted] at hvalidated
  rw [hvalidated]
  refine ⟨rfl, ?_, rfl⟩
  rw [List.filter_append, List.filter_append]
  show training.printed.filter _ ++ [] ++ [] = _
  rw [List.append_nil, List.append_nil]

section Nonempty

variable (hdataset : ∀ phase, 0 < (dataloaders_dict.get phase).dataset.length)
  (hdataset' : ∀ phase, 0 < (dataloaders_dict'.get phase).dataset.length)
  (hlearner : SameTraining learner learner')
  (hdata : dataloaders_dict'.dl_train = dataloaders_dict.dl_train)

include hdataset hdataset' hlearner

/-- Validation phases do the same to two trainings that agree, on whatever data. -/
lemma AgreeOnTraining.runPhase_val (h : AgreeOnTraining training training') :
    AgreeOnTraining (runPhase learner dataloaders_dict num_epochs epoch training .val)
      (runPhase learner' dataloaders_dict' num_epochs epoch training' .val) := by
  obtain ⟨hnet, hprinted, hraised⟩ := TrainModel.runPhase_val learner num_epochs epoch hdataset
    h.raised
  obtain ⟨hnet', hprinted', hraised'⟩ := TrainModel.runPhase_val learner' num_epochs epoch
    hdataset' h.raised'
  refine ⟨?_, ?_, hraised, hraised'⟩
  · rw [hnet, hnet', hlearner.zero_grad, h.net]
  · rw [hprinted, hprinted', h.printed]

include hdata

/-- A training phase does the same to two trainings that agree. -/
lemma AgreeOnTraining.runPhase_train (h : AgreeOnTraining training training') :
    AgreeOnTraining (runPhase learner dataloaders_dict num_epochs epoch training .train)
      (runPhase learner' dataloaders_dict' num_epochs epoch training' .train) := by
  have hget : dataloaders_dict'.get .train = dataloaders_dict.get .train := hdata
  rw [runPhase_of_raised_eq_false hdataset h.raised,
    runPhase_of_raised_eq_false hdataset' h.raised', hget, h.net, hlearner.batchLoop]
  refine ⟨rfl, ?_, rfl, rfl⟩
  dsimp only
  rw [List.filter_append, List.filter_append, h.printed, ← List.filter_append,
    ← List.filter_append]

/-- **The step lemma.** -/
lemma AgreeOnTraining.runEpoch (h : AgreeOnTraining training training') :
    AgreeOnTraining (runEpoch learner dataloaders_dict num_epochs training epoch)
      (runEpoch learner' dataloaders_dict' num_epochs training' epoch) :=
  (h.runPhase_train hdataset hdataset' hlearner hdata).runPhase_val hdataset hdataset' hlearner

end Nonempty

/-- **Validation never trains.**  Two trainings with the same training data, on networks that do
the same while they train, end with the same network and print the same lines about training,
whatever data they are validated with and whatever the network computes in validation. -/
theorem validation_never_trains (learner learner' : Learner Net Sample)
    (dataloaders_dict dataloaders_dict' : Dataloaders Sample) (num_epochs : ℕ) (net : Net)
    (hlearner : SameTraining learner learner')
    (hdata : dataloaders_dict'.dl_train = dataloaders_dict.dl_train)
    (hdataset : ∀ phase, 0 < (dataloaders_dict.get phase).dataset.length ∧
      0 < (dataloaders_dict'.get phase).dataset.length) :
    (train_model learner' dataloaders_dict' num_epochs net).net =
        (train_model learner dataloaders_dict num_epochs net).net ∧
      (train_model learner' dataloaders_dict' num_epochs net).printed.filter Line.isTraining =
        (train_model learner dataloaders_dict num_epochs net).printed.filter Line.isTraining := by
  have h : AgreeOnTraining (train_model learner dataloaders_dict num_epochs net)
      (train_model learner' dataloaders_dict' num_epochs net) :=
    List.foldl_rel ⟨rfl, rfl, rfl, rfl⟩ fun epoch _ _ _ htraining =>
      htraining.runEpoch (fun phase => (hdataset phase).1) (fun phase => (hdataset phase).2)
        hlearner hdata
  exact ⟨h.net, h.printed⟩

/-! ### Three samples in batches of two -/

theorem printed_lines_threeSamples :
    (train_model fixedLosses threeSampleLoaders 2 ()).printed.map Line.kind =
      [.device .cpu, .start, .epoch 1 2 .train, .epoch 1 2 .val, .epoch 2 2 .train,
        .epoch 2 2 .val] :=
  printed_lines fixedLosses threeSampleLoaders 2 () fun phase => by cases phase <;> decide

/-- One sample, in a batch of its own. -/
def oneSample : Iterator ℚ where
  dataset := [1]
  batch_size := threeSamples.batch_size
  batches _ := [[1]]
  batch_size_pos := threeSamples.batch_size_pos
  yields_dataset _ := .refl _
  batched _ := .last (by decide) (by decide)

theorem validation_never_trains_oneSample :
    (train_model fixedLosses ⟨threeSamples, oneSample, rfl⟩ 1 ()).printed.filter Line.isTraining =
      (train_model fixedLosses threeSampleLoaders 1 ()).printed.filter Line.isTraining :=
  (validation_never_trains fixedLosses fixedLosses threeSampleLoaders
    ⟨threeSamples, oneSample, rfl⟩ 1 () ⟨rfl, rfl, rfl, rfl⟩ rfl
    fun phase => by cases phase <;> decide).2

end Procon.TrainModel
