import WeatherStation.Camera
import WeatherStation.Lib.Interference

/-! The hand-over of frames.  `Ov7725_vsync` is 1 while a frame comes in and 2 while it
waits to be read; the interrupt leaves the lines alone until the main loop is done. -/
namespace WeatherStation.Ov7725
open Lib Gpio Relation

/-- The pixels are those between two consecutive VSYNCs. -/
def BetweenVsyncs (sent : List Signal) (pixels : List UInt16) : Prop :=
  ∃ after before,
    sent = after ++ .vsync :: ((pixels.map Signal.pixel).reverse ++ .vsync :: before)

variable (idr : (Nat → UInt16) → Nat → UInt16)

/-- The pixel number `i` of the picture that a memory shows. -/
def pixelAt (memory : Nat → UInt16) (i : Nat) : UInt16 :=
  (idr memory (2 * i + 1) &&& 0xff00) ||| ((idr memory (2 * i + 2) >>> (8 : UInt16)) &&& 0x00ff)

/-- All pixels in the window come from the one memory. -/
def Shown (s : Camera) : Prop :=
  s.window = (List.range s.window.length).map (pixelAt idr s.memory)

/-- What the FIFO owes its reader. -/
structure HandedOver (s : Camera) : Prop where
  disabled : s.we = false
  flag : s.vsync = 2
  frame : BetweenVsyncs s.sent s.contents
  shown : Shown idr s

/-- A frame is coming in. -/
def Filling (s : Camera) : Prop :=
  s.we = true ∧ s.wrst = true ∧
    ∃ before, s.sent = (s.contents.map Signal.pixel).reverse ++ .vsync :: before

/-- A frame is complete. -/
def Settled (s : Camera) : Prop :=
  s.vsync = 2 ∧ s.we = false ∧ BetweenVsyncs s.sent s.contents

/-- What `Ov7725_vsync` says about the FIFO. -/
def Handshake (s : Camera) : Prop :=
  (s.vsync = 1 → Filling s) ∧ (s.vsync = 2 → Settled s)

section
variable {s t : Camera}

theorem BetweenVsyncs.cons {sent : List Signal} {pixels : List UInt16}
    (h : BetweenVsyncs sent pixels) (signal : Signal) :
    BetweenVsyncs (signal :: sent) pixels := by
  obtain ⟨after, before, rfl⟩ := h
  exact ⟨signal :: after, before, rfl⟩

theorem contents_store (rgb565 : UInt16) (h : s.we = true) :
    (s.store rgb565).contents = s.contents ++ [rgb565] := by
  unfold Camera.store Camera.contents
  rw [if_pos h]
  dsimp only
  rw [List.range_succ, List.map_append, List.map_singleton, Function.update_self]
  congr 1
  apply List.map_congr_left
  intro i hi
  exact Function.update_of_ne (Nat.ne_of_lt (List.mem_range.mp hi)) _ _

theorem interrupt_zero (h : s.vsync = 0) : s.myOv7725Interrupt =
    { s with wrst := true, we := true, vsync := 1, writePointer := 0 } := by
  unfold Camera.myOv7725Interrupt
  rw [if_pos h]
  rfl

theorem interrupt_one (h : s.vsync = 1) :
    s.myOv7725Interrupt = { s with we := false, vsync := 2 } := by
  unfold Camera.myOv7725Interrupt
  rw [if_neg (by rw [h]; decide), if_pos h]
  rfl

theorem interrupt_other (hzero : s.vsync ≠ 0) (hone : s.vsync ≠ 1) : s.myOv7725Interrupt = s := by
  unfold Camera.myOv7725Interrupt
  rw [if_neg hzero, if_neg hone]

/-- While a complete frame waits, signals come and go without effect. -/
theorem Settled.interferes (h : Settled s) (hst : Camera.Interferes s t) :
    ∃ signal, t = { s with sent := signal :: s.sent } := by
  obtain ⟨hvsync, hwe, -⟩ := h
  cases hst with
  | vsync henabled =>
    refine ⟨.vsync, ?_⟩
    rw [interrupt_other (by rw [hvsync]; decide) (by rw [hvsync]; decide)]
  | pixel rgb565 =>
    refine ⟨.pixel rgb565, ?_⟩
    unfold Camera.store
    rw [if_neg (by rw [hwe]; decide)]
  | reset memory writePointer hwe' => exact absurd (hwe.symm.trans hwe') (by decide)

theorem Settled.stable (h : Settled s) (hst : Camera.Interferes s t) : Settled t := by
  obtain ⟨signal, rfl⟩ := h.interferes hst
  exact ⟨h.1, h.2.1, h.2.2.cons signal⟩

theorem Filling.pixel (h : Filling s) (rgb565 : UInt16) :
    Filling { s.store rgb565 with sent := .pixel rgb565 :: s.sent } := by
  obtain ⟨hwe, hwrst, before, hsent⟩ := h
  have hcontents := contents_store rgb565 hwe
  have hlines : (s.store rgb565).we = true ∧ (s.store rgb565).wrst = true := by
    unfold Camera.store
    rw [if_pos hwe]
    exact ⟨hwe, hwrst⟩
  refine ⟨hlines.1, hlines.2, before, ?_⟩
  change Signal.pixel rgb565 :: s.sent =
    ((s.store rgb565).contents.map Signal.pixel).reverse ++ .vsync :: before
  rw [hcontents, hsent, List.map_append, List.map_singleton, List.reverse_append]
  rfl

/-- The step of the hand-shake, one case for each value of the flag. -/
theorem Handshake.stable (h : Handshake s) (hst : Camera.Interferes s t) : Handshake t := by
  obtain ⟨hfilling, hsettled⟩ := h
  cases hst with
  | vsync henabled =>
    have hdistinct : (1 : UInt8) ≠ 2 := by decide
    by_cases hzero : s.vsync = 0
    · -- an empty frame begins
      rw [interrupt_zero hzero]
      exact ⟨fun _ => ⟨rfl, rfl, s.sent, rfl⟩, fun htwo => absurd htwo hdistinct⟩
    · by_cases hone : s.vsync = 1
      · -- the frame is complete
        obtain ⟨-, -, before, hsent⟩ := hfilling hone
        rw [interrupt_one hone]
        exact ⟨fun hone => absurd hone hdistinct.symm,
          fun _ => ⟨rfl, rfl, [], before, congrArg (Signal.vsync :: ·) hsent⟩⟩
      · rw [interrupt_other hzero hone]
        exact ⟨fun h => absurd h hone,
          fun htwo => ⟨htwo, (hsettled htwo).2.1, (hsettled htwo).2.2.cons _⟩⟩
  | pixel rgb565 =>
    have hvsync : (s.store rgb565).vsync = s.vsync := by
      unfold Camera.store
      split <;> rfl
    exact ⟨fun hone => (hfilling (hvsync ▸ hone)).pixel rgb565,
      fun htwo => (hsettled (hvsync ▸ htwo)).stable (.pixel rgb565)⟩
  | reset memory writePointer hwe hwrst =>
    refine ⟨fun hone => ?_, fun htwo => ?_⟩
    · exact absurd ((hfilling hone).2.1.symm.trans hwrst) (by decide)
    · exact absurd ((hsettled htwo).2.1.symm.trans hwe) (by decide)

/-- The main loop asks for a frame. -/
theorem Handshake.restart (s : Camera) : Handshake { s with vsync := 0 } := by
  have hone : (0 : UInt8) ≠ 1 := by decide
  have htwo : (0 : UInt8) ≠ 2 := by decide
  exact ⟨fun h => absurd h hone, fun h => absurd h htwo⟩

theorem reading_stable (hst : Camera.Interferes s t) : t.reading = s.reading := by
  cases hst with
  | vsync henabled =>
    unfold Camera.myOv7725Interrupt
    split
    · rfl
    · split <;> rfl
  | pixel rgb565 =>
    unfold Camera.store
    split <;> rfl
  | reset memory writePointer hwe hwrst => rfl

end

abbrev surroundings : Surroundings Unit Camera :=
  ⟨Camera.Interferes, fun _ _ => True, fun s => s.reading = true → HandedOver idr s⟩

def idle : Assertion (surroundings idr) where
  holds s := s.reading = false
  stable := fun _ _ hs hst => (reading_stable hst).trans hs
  guaranteed := fun _ hs hreading => absurd (hs.symm.trans hreading) (by decide)

def ready : Assertion (surroundings idr) where
  holds s := s.reading = false ∧ Handshake s
  stable := fun _ _ hs hst => ⟨(reading_stable hst).trans hs.1, hs.2.stable hst⟩
  guaranteed := fun s hs => (idle idr).guaranteed s hs.1

/-- A complete frame waits, and its reader is at some point. -/
def settled (reader : Camera → Prop) (hsent : ∀ s sent, reader s → reader { s with sent })
    (hshown : ∀ s, reader s → s.reading = true → Shown idr s) :
    Assertion (surroundings idr) where
  holds s := Settled s ∧ reader s
  stable := by
    intro s t hs hst
    obtain ⟨signal, rfl⟩ := hs.1.interferes hst
    exact ⟨hs.1.stable hst, hsent s _ hs.2⟩
  guaranteed := fun s hs hreading =>
    ⟨hs.1.2.1, hs.1.1, hs.1.2.2, hshown s hs.2 hreading⟩

/-- The reader has set up its lines; the window is not open yet. -/
def preparing (lines : Bool → Bool → Nat → Prop) : Assertion (surroundings idr) :=
  settled idr (fun s => s.reading = false ∧ lines s.rrst s.rclk s.readClock) (fun _ _ hs => hs)
    fun s hs hreading => absurd (hs.1.symm.trans hreading) (by decide)

/-- The reader is so many clock edges behind the first pixel that is not yet shown, and
holds some data. -/
def showing (rclk : Bool) (edge : Nat) (data : (Nat → UInt16) → Nat → Prop) :
    Assertion (surroundings idr) :=
  settled idr
    (fun s => s.rrst = true ∧ s.rclk = rclk ∧ s.readClock = 2 * s.window.length + edge ∧
      Shown idr s ∧ data s.memory s.window.length)
    (fun _ _ hs => hs) fun _ hs _ => hs.2.2.2.1

section
variable {idr}

theorem fifoPrepare_triple :
    fifoPrepare.Triple (preparing idr fun _ _ _ => True)
      fun _ => preparing idr fun rrst rclk clock => rrst = true ∧ rclk = true ∧ clock = 1 := by
  have hreset : (Program.assign Camera.fifoRrstL : Prog Unit).Triple
      (preparing idr fun _ _ _ => True) fun _ => preparing idr fun rrst _ _ => rrst = false :=
    .assign fun s hs => ⟨hs.1, hs.2.1, rfl⟩
  have hlow : (Program.assign Camera.fifoRclkL : Prog Unit).Triple
      (preparing idr fun rrst _ _ => rrst = false)
      fun _ => preparing idr fun rrst rclk _ => rrst = false ∧ rclk = false :=
    .assign fun s hs => ⟨hs.1, hs.2.1, hs.2.2, rfl⟩
  have hfirst : (Program.assign Camera.fifoRclkH : Prog Unit).Triple
      (preparing idr fun rrst rclk _ => rrst = false ∧ rclk = false)
      fun _ => preparing idr fun _ _ clock => clock = 0 := by
    apply Program.Triple.assign
    intro s hs
    refine ⟨hs.1, hs.2.1, ?_⟩
    change (if s.rclk then s.readClock else if s.rrst then s.readClock + 1 else 0) = 0
    rw [hs.2.2.1, hs.2.2.2]
    rfl
  have hrelease : (Program.assign Camera.fifoRrstH : Prog Unit).Triple
      (preparing idr fun _ _ clock => clock = 0)
      fun _ => preparing idr fun rrst _ clock => rrst = true ∧ clock = 0 :=
    .assign fun s hs => ⟨hs.1, hs.2.1, rfl, hs.2.2⟩
  have hlow' : (Program.assign Camera.fifoRclkL : Prog Unit).Triple
      (preparing idr fun rrst _ clock => rrst = true ∧ clock = 0)
      fun _ => preparing idr fun rrst rclk clock => rrst = true ∧ rclk = false ∧ clock = 0 :=
    .assign fun s hs => ⟨hs.1, hs.2.1, hs.2.2.1, rfl, hs.2.2.2⟩
  have hsecond : (Program.assign Camera.fifoRclkH : Prog Unit).Triple
      (preparing idr fun rrst rclk clock => rrst = true ∧ rclk = false ∧ clock = 0)
      fun _ => preparing idr fun rrst rclk clock => rrst = true ∧ rclk = true ∧ clock = 1 := by
    apply Program.Triple.assign
    intro s hs
    refine ⟨hs.1, hs.2.1, hs.2.2.1, rfl, ?_⟩
    change (if s.rclk then s.readClock else if s.rrst then s.readClock + 1 else 0) = 1
    rw [hs.2.2.1, hs.2.2.2.1, hs.2.2.2.2]
    rfl
  exact hreset.bind fun _ => hlow.bind fun _ => hfirst.bind fun _ => hrelease.bind fun _ =>
    hlow'.bind fun _ => hsecond

section
variable {data : (Nat → UInt16) → Nat → Prop} {edge : Nat}

theorem fifoRclkL_triple {rclk : Bool} : (Program.assign Camera.fifoRclkL : Prog Unit).Triple
    (showing idr rclk edge data) fun _ => showing idr false edge data :=
  .assign fun _ hs => ⟨hs.1, hs.2.1, rfl, hs.2.2.2⟩

theorem fifoRclkH_triple : (Program.assign Camera.fifoRclkH : Prog Unit).Triple
    (showing idr false edge data) fun _ => showing idr true (edge + 1) data := by
  apply Program.Triple.assign
  intro s hs
  obtain ⟨hsettled, hrrst, hrclk, hclock, hshown, hdata⟩ := hs
  refine ⟨hsettled, hrrst, rfl, ?_, hshown, hdata⟩
  change (if s.rclk then s.readClock else if s.rrst then s.readClock + 1 else 0) = _
  rw [hrclk, hrrst, hclock]
  rfl

/-- A byte is taken from the data pins. -/
theorem readIdr_triple (take : UInt16 → UInt16) :
    (Program.read fun s : Camera => take (idr s.memory s.readClock) : Prog UInt16).Triple
      (showing idr false edge data)
      fun byte => showing idr false edge fun memory pixel =>
        data memory pixel ∧ byte = take (idr memory (2 * pixel + edge)) := by
  apply Program.Triple.read
  intro s hs
  obtain ⟨hsettled, hrrst, hrclk, hclock, hshown, hdata⟩ := hs
  exact ⟨hsettled, hrrst, hrclk, hclock, hshown, hdata, by rw [hclock]⟩

end

theorem readFifoPixel_triple :
    (readFifoPixel idr).Triple (showing idr true 1 fun _ _ => True)
      fun cameraData => showing idr true 3 fun memory pixel =>
        cameraData = pixelAt idr memory pixel :=
  fifoRclkL_triple.bind fun _ => (readIdr_triple (· &&& 0xff00)).bind fun high =>
    fifoRclkH_triple.bind fun _ => fifoRclkL_triple.bind fun _ =>
      (readIdr_triple fun byte => (byte >>> 8) &&& 0x00ff).bind fun low =>
        fifoRclkH_triple.bind fun _ => .pure fun s hs => by
          obtain ⟨hsettled, hrrst, hrclk, hclock, hshown, ⟨-, hhigh⟩, hlow⟩ := hs
          exact ⟨hsettled, hrrst, hrclk, hclock, hshown, by rw [hhigh, hlow]; rfl⟩

/-- One more pixel of the picture is shown. -/
theorem showPixel_triple :
    (showPixel idr).Triple (showing idr true 1 fun _ _ => True)
      fun _ => showing idr true 1 fun _ _ => True := by
  apply readFifoPixel_triple.bind
  intro cameraData
  apply Program.Triple.assign
  intro s hs
  obtain ⟨hsettled, hrrst, hrclk, hclock, hshown, hdata⟩ := hs
  have hlength : (s.window ++ [cameraData]).length = s.window.length + 1 := by
    rw [List.length_append, List.length_singleton]
  refine ⟨hsettled, hrrst, hrclk, ?_, ?_, trivial⟩
  · change s.readClock = 2 * (s.window ++ [cameraData]).length + 1
    omega
  · change s.window ++ [cameraData] =
      (List.range (s.window ++ [cameraData]).length).map (pixelAt idr s.memory)
    rw [hlength, List.range_succ, List.map_append, List.map_singleton, ← hdata, ← hshown]

theorem imagDisp_triple (width height : UInt16) :
    (imagDisp idr width height).Triple
      (preparing idr fun rrst rclk clock => rrst = true ∧ rclk = true ∧ clock = 1)
      fun _ => preparing idr fun _ _ _ => True := by
  have hopen : (Program.assign fun s : Camera => { s with window := [], reading := true } :
      Prog Unit).Triple
      (preparing idr fun rrst rclk clock => rrst = true ∧ rclk = true ∧ clock = 1)
      fun _ => showing idr true 1 fun _ _ => True :=
    .assign fun s hs => ⟨hs.1, hs.2.2.1, hs.2.2.2.1, hs.2.2.2.2, rfl, trivial⟩
  have hpixels : (Program.repeatTimes width.toNat (Program.repeatTimes height.toNat
      (showPixel idr))).Triple (showing idr true 1 fun _ _ => True)
      fun _ => showing idr true 1 fun _ _ => True :=
    .repeatTimes (.repeatTimes showPixel_triple _) _
  have hclose : (Program.assign fun s : Camera => { s with reading := false } :
      Prog Unit).Triple (showing idr true 1 fun _ _ => True)
      fun _ => preparing idr fun _ _ _ => True :=
    .assign fun s hs => ⟨hs.1, rfl, trivial⟩
  exact hopen.bind fun _ => hpixels.bind fun _ => hclose

/-- A call of the test waits for a complete frame, shows it and asks for the next one. -/
theorem myOv7725Test_triple (mode : CamMode) :
    (myOv7725Test idr mode).Triple (ready idr) fun _ => ready idr := by
  have hread : (Program.read fun s : Camera => s.vsync : Prog UInt8).Triple (ready idr)
      fun vsync => if vsync = 2 then preparing idr fun _ _ _ => True else ready idr := by
    apply Program.Triple.read
    intro s hs
    split
    · exact ⟨hs.2.2 ‹_›, hs.1, trivial⟩
    · exact hs
  apply hread.bind
  intro vsync
  by_cases hvsync : vsync = 2
  · rw [if_pos hvsync, if_pos hvsync]
    have hblue : (Program.assign fun s : Camera => { s with led := .blue } : Prog Unit).Triple
        (preparing idr fun _ _ _ => True) fun _ => preparing idr fun _ _ _ => True :=
      .assign fun _ hs => hs
    have hnext : (Program.assign fun s : Camera => { s with vsync := 0 } : Prog Unit).Triple
        (preparing idr fun _ _ _ => True) fun _ => ready idr :=
      .assign fun s hs => ⟨hs.2.1, .restart s⟩
    have hgreen : (Program.assign fun s : Camera => { s with led := .green } : Prog Unit).Triple
        (ready idr) fun _ => ready idr :=
      .assign fun _ hs => hs
    exact hblue.bind fun _ => fifoPrepare_triple.bind fun _ =>
      (imagDisp_triple _ _).bind fun _ => hnext.bind fun _ => hgreen
  · rw [if_neg hvsync, if_neg hvsync]
    exact .pure fun _ hs => hs

/-- Not even the flag is known while the camera is set up. -/
theorem sccb_triple : sccb.Triple (idle idr) fun _ => idle idr := .assign fun _ hs => hs

theorem ov7725GpioConfig_triple : ov7725GpioConfig.Triple (idle idr) fun _ => idle idr := by
  have houtput : (Program.assign Camera.fifoOeL : Prog Unit).Triple (idle idr)
      fun _ => idle idr := .assign fun _ hs => hs
  have hwrite : (Program.assign Camera.fifoWeH : Prog Unit).Triple (idle idr)
      fun _ => idle idr := .assign fun _ hs => hs
  have hirq : vsyncGpioConfig.Triple (idle idr) fun _ => idle idr := .assign fun _ hs => hs
  exact sccb_triple.bind fun _ => (houtput.bind fun _ => hwrite).bind fun _ => hirq

theorem ov7725Init_triple (status : ErrorStatus) :
    (ov7725Init status).Triple (idle idr) fun _ => idle idr :=
  sccb_triple.bind fun _ => .pure fun _ hs => hs

theorem initRetries_triple (status : Nat → ErrorStatus) (left : Nat) :
    (initRetries status left).Triple (idle idr) fun _ => idle idr := by
  induction left with
  | zero =>
    exact (ov7725Init_triple _).bind fun _ =>
      .ite (fun _ => .pure fun _ hs => hs) fun _ => .pure fun _ hs => hs
  | succ left ih =>
    exact (ov7725Init_triple _).bind fun _ => .ite (fun _ => .pure fun _ hs => hs) fun _ => ih

/-- A successful init starts the hand-shake, whatever the interrupt has done so far. -/
theorem myOv7725TestInit_triple (status : Nat → ErrorStatus) :
    (myOv7725TestInit status).Triple (idle idr)
      fun err => if err = rtEok then ready idr else idle idr := by
  apply ov7725GpioConfig_triple.bind
  intro _
  apply (initRetries_triple status 5).bind
  intro err
  by_cases herr : err = rtEok
  · rw [if_pos herr]
    have hflag : (Program.assign fun s : Camera => { s with vsync := 0 } : Prog Unit).Triple
        (idle idr) fun _ => ready idr :=
      .assign fun s hs => ⟨hs, .restart s⟩
    exact (Program.Triple.repeatTimes sccb_triple 7).bind fun _ => hflag.bind fun _ =>
      .pure fun _ hs => by rwa [if_pos rfl]
  · rw [if_neg herr]
    exact .pure fun _ hs => by rwa [if_neg herr]

theorem cameraMain_triple (mode : CamMode) (calls : Nat) (rounds : List CameraRound) :
    (cameraMain idr mode calls rounds).Triple (idle idr) fun _ => idle idr := by
  induction rounds with
  | nil => exact .pure fun _ hs => hs
  | cons round rounds ih =>
    apply (myOv7725TestInit_triple round.status).bind
    intro err
    by_cases herr : err = rtEok
    · rw [if_pos herr]
      apply Program.Triple.ite
      · exact fun _ => (Program.Triple.repeatTimes (myOv7725Test_triple mode) calls).weaken
          fun _ _ hs => hs.1
      · exact fun _ => ih.strengthen fun _ hs => hs.1
    · rw [if_neg herr]
      exact .ite (fun hgood => absurd hgood.1 herr) fun _ => ih

end

/-- In every state in which a picture is being read, its frame is complete and nobody
writes to it. -/
theorem handedOver (mode : CamMode) (calls : Nat) (rounds : List CameraRound) {s t : Camera}
    {program : Prog Unit} (h : s.reading = false)
    (hsteps : ReflTransGen (Program.Interleaves Camera.Interferes)
      (cameraMain idr mode calls rounds, s) (program, t))
    (hreading : t.reading = true) : HandedOver idr t :=
  (cameraMain_triple mode calls rounds).interleaves (fun _ _ => trivial) h hsteps hreading

/-- The bytes of the pixels one after the other, the high byte first. -/
def fifoPins (memory : Nat → UInt16) (clock : Nat) : UInt16 :=
  if clock % 2 = 1 then memory (clock / 2) else memory (clock / 2 - 1) <<< (8 : UInt16)

def powerOn : Camera where
  vsync := 0
  irqEnabled := false
  oe := false
  we := false
  wrst := false
  rrst := false
  rclk := false
  memory := fun _ => 0
  writePointer := 0
  readClock := 0
  window := []
  led := .off
  sent := []
  reading := false

/-- One boot round and one call for a picture of two pixels. -/
def oneShot : Prog Unit := cameraMain fifoPins ⟨2, 1⟩ 1 [⟨fun _ => .success, true⟩]

/-- After a frame of two pixels, the first one is shown. -/
theorem handedOver_firstPixel :
    ∃ program t, ReflTransGen (Program.Interleaves Camera.Interferes) (oneShot, powerOn)
      (program, t) ∧ t.reading = true ∧ t.window = [0x1234] ∧ HandedOver fifoPins t := by
  have hboot := Program.interleaves_iterate Camera.Interferes 13 (oneShot, powerOn)
  have hvsync : Camera.Interferes (Program.next^[13] (oneShot, powerOn)).2 _ := .vsync rfl
  have hframe := (((ReflTransGen.single hvsync).tail (.pixel 0x1234)).tail (.pixel 0x5678)).tail
    (.vsync rfl)
  have hsteps := (hboot.trans (Program.interleaves_interference _ hframe)).trans
    (Program.interleaves_iterate Camera.Interferes 16 _)
  exact ⟨_, _, hsteps, rfl, rfl, handedOver fifoPins ⟨2, 1⟩ 1 _ rfl hsteps rfl⟩

end WeatherStation.Ov7725
