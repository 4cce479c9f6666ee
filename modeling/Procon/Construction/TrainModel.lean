import Procon.Framework.Batches
import Mathlib.Algebra.Field.Rat

/-!
# The training loop

`train_model` trains the classifier for some epochs.  In each epoch it passes over the training
data and then over the validation data, batch by batch, and after a pass prints the loss and the
accuracy of the epoch.  What the network computes is a parameter: the loss of a sample and whether
its label is predicted, given the state of the network, and the state after a step of the
optimizer.  Numbers are exact rationals, and a line holds the values that are formatted in it.

An `Iterator` is torchtext's: every pass over it yields the dataset once, in whatever order, in
batches of `batch_size` samples of which the last may be shorter.  A pass over an empty dataset
ends the training, since its loss is divided by the number of samples.
-/

namespace Procon.TrainModel

open Batches

/-! ## Data -/

inductive Phase
  | train
  | val
  deriving DecidableEq

structure Iterator (Sample : Type*) where
  dataset : List Sample
  batch_size : ℕ
  /-- The batches of each pass, counted from zero. -/
  batches : ℕ → List (List Sample)
  batch_size_pos : 0 < batch_size
  yields_dataset : ∀ pass, (batches pass).flatten.Perm dataset
  batched : ∀ pass, Batched batch_size (batches pass)

/-- The two iterators, which are made with the same `batch_size`. -/
structure Dataloaders (Sample : Type*) where
  dl_train : Iterator Sample
  dl_eval : Iterator Sample
  batch_size_eq : dl_eval.batch_size = dl_train.batch_size

/-- `dataloaders_dict[phase]`. -/
def Dataloaders.get {Sample : Type*} (dataloaders_dict : Dataloaders Sample) :
    Phase → Iterator Sample
  | .train => dataloaders_dict.dl_train
  | .val => dataloaders_dict.dl_eval

/-! ## The network -/

inductive Device
  | cuda0
  | cpu
  deriving DecidableEq

/-- What the loop sees of the network and the optimizer.  `Net` is the state of both. -/
structure Learner (Net Sample : Type*) where
  /-- What the network is moved to. -/
  device : Device
  /-- The cross entropy of one sample, in training or in validation mode. -/
  sampleLoss : Phase → Net → Sample → ℚ
  /-- The label of the sample is the predicted one. -/
  correct : Phase → Net → Sample → Bool
  /-- `optimizer.zero_grad()`. -/
  zero_grad : Net → Net
  zero_grad_zero_grad : ∀ net, zero_grad (zero_grad net) = zero_grad net
  /-- `loss.backward()` and `optimizer.step()` on a batch. -/
  optimize : Net → List Sample → Net

variable {Net Sample : Type*}

/-- The losses of the samples of a batch. -/
def Learner.losses (learner : Learner Net Sample) (phase : Phase) (net : Net)
    (batch : List Sample) : List ℚ := batch.map (learner.sampleLoss phase net)

/-- `criterion(outputs, labels)`: `CrossEntropyLoss` returns the mean over the batch. -/
def Learner.criterion (learner : Learner Net Sample) (phase : Phase) (net : Net)
    (batch : List Sample) : ℚ := mean (learner.losses phase net batch)

/-- `torch.sum(preds == labels.data)`. -/
def Learner.corrects (learner : Learner Net Sample) (phase : Phase) (net : Net)
    (batch : List Sample) : ℕ := batch.countP (learner.correct phase net)

/-! ## One pass -/

/-- What is printed while training. -/
inductive Line
  | device (device : Device)
  | start
  | iteration (iteration : ℕ) (loss acc : ℚ)
  | epoch (epoch num_epochs : ℕ) (phase : Phase) (epoch_loss epoch_acc : ℚ)
  deriving DecidableEq

/-- The variables of the batch loop. -/
structure BatchLoop (Net : Type*) where
  net : Net
  epoch_loss : ℚ
  epoch_corrects : ℕ
  iteration : ℕ
  printed : List Line

def BatchLoop.start (net : Net) : BatchLoop Net where
  net := net
  epoch_loss := 0
  epoch_corrects := 0
  iteration := 1
  printed := []

/-- The network after a batch: only training optimizes it. -/
def Learner.next (learner : Learner Net Sample) (phase : Phase) (net : Net)
    (batch : List Sample) : Net :=
  if phase = .train then learner.optimize (learner.zero_grad net) batch else learner.zero_grad net

/-- The body of the batch loop. -/
def BatchLoop.step (learner : Learner Net Sample) (phase : Phase) (batch_size : ℕ)
    (vars : BatchLoop Net) (batch : List Sample) : BatchLoop Net :=
  let loss := learner.criterion phase (learner.zero_grad vars.net) batch
  let corrects := learner.corrects phase (learner.zero_grad vars.net) batch
  { net := learner.next phase vars.net batch
    epoch_loss := vars.epoch_loss + loss * batch_size
    epoch_corrects := vars.epoch_corrects + corrects
    iteration := vars.iteration + 1
    printed :=
      if phase = .train ∧ vars.iteration % 10 = 0 then
        vars.printed ++ [.iteration vars.iteration loss (corrects / batch_size)]
      else vars.printed }

/-- The batch loop over the batches of one pass. -/
def batchLoop (learner : Learner Net Sample) (phase : Phase) (batch_size : ℕ)
    (batches : List (List Sample)) (net : Net) : BatchLoop Net :=
  batches.foldl (BatchLoop.step learner phase batch_size) (.start net)

/-! ## The epochs -/

/-- The network and what has been printed. -/
structure Training (Net : Type*) where
  net : Net
  printed : List Line
  /-- A division by zero has ended the training. -/
  raised : Bool

def Training.start (learner : Learner Net Sample) (net : Net) : Training Net where
  net := net
  printed := [.device learner.device, .start]
  raised := false

/-- One phase of one epoch. -/
def runPhase (learner : Learner Net Sample) (dataloaders_dict : Dataloaders Sample)
    (num_epochs epoch : ℕ) (training : Training Net) (phase : Phase) : Training Net :=
  if training.raised then training else
  let batch_size := (dataloaders_dict.get .train).batch_size
  let dataloader := dataloaders_dict.get phase
  let vars := batchLoop learner phase batch_size (dataloader.batches epoch) training.net
  let printed := training.printed ++ vars.printed
  if dataloader.dataset.length = 0 then { net := vars.net, printed := printed, raised := true } else
  let epoch_loss : ℚ := vars.epoch_loss / dataloader.dataset.length
  let epoch_acc : ℚ := vars.epoch_corrects / dataloader.dataset.length
  { net := vars.net
    printed := printed ++ [.epoch (epoch + 1) num_epochs phase epoch_loss epoch_acc]
    raised := false }

def runEpoch (learner : Learner Net Sample) (dataloaders_dict : Dataloaders Sample)
    (num_epochs : ℕ) (training : Training Net) (epoch : ℕ) : Training Net :=
  [Phase.train, Phase.val].foldl (runPhase learner dataloaders_dict num_epochs epoch) training

def train_model (learner : Learner Net Sample) (dataloaders_dict : Dataloaders Sample)
    (num_epochs : ℕ) (net : Net) : Training Net :=
  (List.range num_epochs).foldl (runEpoch learner dataloaders_dict num_epochs)
    (.start learner net)

end Procon.TrainModel
