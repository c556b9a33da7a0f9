import PlugAndPlay.Memoria.Accesos
import PlugAndPlay.Red.Mensajes

/-!
# Transfers over the sockets

The loops of `memory_io.c` with the messages that carry each piece. A piece has to fit into the receive buffer of
the side that reads it; where it does not, the loop has no end, or one of the two processes dies. Where all pieces
arrive these loops are those of `MemoryIo`.
-/

namespace PlugAndPlay.Memoria

open Red (CabeEnTrama Llega Recepcion largoPedidoEscritura)

/-! ## The code -/

/-- The sticks and the connections that have broken. Nobody closes the socket of these: the next message that is
sent there ends Kernel Memory with `SIGPIPE`. -/
structure RamEnRed where
  ram : Ram
  rotos : List ℕ

def RamEnRed.romper (red : RamEnRed) (idx : ℕ) : RamEnRed := ⟨red.ram.avisar, idx :: red.rotos⟩

/-- The request `LECTURA_MEMORIA` of one piece, up to the last byte of the answer. Nothing when there is no end. -/
def RamEnRed.leerPieza [Recepcion] (red : RamEnRed) (acceso : Acceso) :
    Option (Except FalloIo (List UInt8) × RamEnRed) :=
  if acceso.stick ∈ red.rotos then none
  else
    match red.ram.siguienteCorte with
    | (true, ram) => some (.error .desconectado, RamEnRed.romper ⟨ram, red.rotos⟩ acceso.stick)
    | (false, ram) =>
      match acceso.pieza ram.tabla with
      | none => some (.error .incompleta, ⟨ram.avisar, red.rotos⟩)
      | some datos =>
        -- The stick dies of an answer that fits into no frame; `validar_buffer` waits for what it cannot hold.
        if ¬ CabeEnTrama acceso.bytes.toNat then
          some (.error .desconectado, RamEnRed.romper ⟨ram, red.rotos⟩ acceso.stick)
        else if Llega acceso.bytes.toNat then some (.ok datos, ⟨ram, red.rotos⟩)
        else none

/-- The loop of `memory_io_leer`. -/
def leerTramosRed [Recepcion] :
    ℕ → RamEnRed → UInt32 → UInt32 → Option (Except FalloIo (List UInt8) × RamEnRed)
  | 0, red, _, _ => some (.ok [], red)
  | pasos + 1, red, dirAct, restante =>
    if restante = 0 then some (.ok [], red)
    else
      match siguienteAcceso red.ram.tabla dirAct restante with
      | none => some (.error .sinStick, red)
      | some acceso =>
        match red.leerPieza acceso with
        | none => none
        | some (.error fallo, red) => some (.error fallo, red)
        | some (.ok datos, red) =>
          (leerTramosRed pasos red (dirAct + acceso.bytes) (restante - acceso.bytes)).map
            fun resto ↦ (resto.1.map (datos ++ ·), resto.2)

def memoryIoLeerRed [Recepcion] (red : RamEnRed) (dirFisica tamanio : UInt32) :
    Option (Except FalloIo (List UInt8) × RamEnRed) :=
  leerTramosRed tamanio.toNat red dirFisica tamanio

/-- The request `ESCRITURA_MEMORIA` of one piece, up to the acknowledgement; whether it has come. -/
def RamEnRed.escribirPieza [Recepcion] (red : RamEnRed) (acceso : Acceso) (datos : List UInt8) :
    Option (Bool × RamEnRed) :=
  -- Kernel Memory dies of a request that fits into no frame.
  if acceso.stick ∈ red.rotos ∨ ¬ CabeEnTrama (largoPedidoEscritura + acceso.bytes.toNat) then none
  else
    match red.ram.siguienteCorte with
    | (true, ram) => some (false, RamEnRed.romper ⟨ram, red.rotos⟩ acceso.stick)
    | (false, ram) =>
      if Llega (largoPedidoEscritura + acceso.bytes.toNat) then
        some (true, ⟨ram.pedirEscritura acceso.stick acceso.localOffset acceso.bytes datos, red.rotos⟩)
      else none

/-- The loop of `memory_io_escribir`. -/
def escribirTramosRed [Recepcion] :
    ℕ → RamEnRed → UInt32 → UInt32 → List UInt8 → Option (Except FalloIo Unit × RamEnRed)
  | 0, red, _, _, _ => some (.ok (), red)
  | pasos + 1, red, dirAct, restante, datos =>
    if restante = 0 then some (.ok (), red)
    else
      match siguienteAcceso red.ram.tabla dirAct restante with
      | none => some (.error .sinStick, red)
      | some acceso =>
        match red.escribirPieza acceso datos with
        | none => none
        | some (false, red) => some (.error .desconectado, red)
        | some (true, red) =>
          escribirTramosRed pasos red (dirAct + acceso.bytes) (restante - acceso.bytes)
            (datos.drop acceso.bytes.toNat)

def memoryIoEscribirRed [Recepcion] (red : RamEnRed) (dirFisica tamanio : UInt32) (datos : List UInt8) :
    Option (Except FalloIo Unit × RamEnRed) :=
  escribirTramosRed tamanio.toNat red dirFisica tamanio datos

/-! ## One piece -/

/-- The answer with this piece arrives. -/
def Acceso.LecturaLlega [Recepcion] (rotos : List ℕ) (acceso : Acceso) : Prop :=
  acceso.stick ∉ rotos ∧ Llega acceso.bytes.toNat

/-- The request with this piece arrives. -/
def Acceso.EscrituraLlega [Recepcion] (rotos : List ℕ) (acceso : Acceso) : Prop :=
  acceso.stick ∉ rotos ∧ Llega (largoPedidoEscritura + acceso.bytes.toNat)

instance [Recepcion] (rotos : List ℕ) (acceso : Acceso) : Decidable (acceso.LecturaLlega rotos) :=
  inferInstanceAs (Decidable (_ ∧ _))

instance [Recepcion] (rotos : List ℕ) (acceso : Acceso) : Decidable (acceso.EscrituraLlega rotos) :=
  inferInstanceAs (Decidable (_ ∧ _))

section Piezas

variable {red despues : RamEnRed} {ram : Ram} {acceso : Acceso} {datos : List UInt8}

theorem RamEnRed.leerPieza_ok [Recepcion] (h : acceso.LecturaLlega red.rotos)
    (hcorte : red.ram.siguienteCorte = (false, ram))
    (hpieza : acceso.pieza red.ram.tabla = some datos) :
    red.leerPieza acceso = some (.ok datos, ⟨ram, red.rotos⟩) := by
  rw [← Ram.tabla_of_siguienteCorte hcorte] at hpieza
  unfold leerPieza
  rw [if_neg h.1, hcorte]
  dsimp only
  rw [hpieza]
  dsimp only
  rw [if_neg (not_not_intro h.2.cabe), if_pos h.2]

theorem RamEnRed.leerPieza_corte [Recepcion] (hroto : acceso.stick ∉ red.rotos)
    (hcorte : red.ram.siguienteCorte = (true, ram)) :
    red.leerPieza acceso = some (.error .desconectado, RamEnRed.romper ⟨ram, red.rotos⟩ acceso.stick) := by
  unfold leerPieza
  rw [if_neg hroto, hcorte]

/-- What becomes of the answer with one piece. -/
theorem RamEnRed.leerPieza_cases [Recepcion] (hpieza : acceso.pieza red.ram.tabla = some datos) :
    (acceso.stick ∈ red.rotos ∧ red.leerPieza acceso = none) ∨
    (acceso.stick ∉ red.rotos ∧ (red.ram.cortes.headD false = true ∨ ¬ CabeEnTrama acceso.bytes.toNat) ∧
      red.leerPieza acceso = some (.error .desconectado,
        RamEnRed.romper ⟨{ red.ram with cortes := red.ram.cortes.tail }, red.rotos⟩ acceso.stick)) ∨
    (red.ram.cortes.headD false = false ∧ CabeEnTrama acceso.bytes.toNat ∧ ¬ Llega acceso.bytes.toNat ∧
      red.leerPieza acceso = none) ∨
    (acceso.LecturaLlega red.rotos ∧ red.ram.cortes.headD false = false ∧ CabeEnTrama acceso.bytes.toNat ∧
      red.leerPieza acceso = some (.ok datos, ⟨{ red.ram with cortes := red.ram.cortes.tail }, red.rotos⟩)) := by
  by_cases hroto : acceso.stick ∈ red.rotos
  · refine .inl ⟨hroto, ?_⟩
    unfold leerPieza
    rw [if_pos hroto]
  cases hcorte : red.ram.cortes.headD false with
  | true => exact .inr (.inl ⟨hroto, .inl rfl, leerPieza_corte hroto (Ram.siguienteCorte_of_headD hcorte)⟩)
  | false =>
    have hsigue := Ram.siguienteCorte_of_headD hcorte
    by_cases hllega : Llega acceso.bytes.toNat
    · exact .inr (.inr (.inr ⟨⟨hroto, hllega⟩, rfl, hllega.cabe, leerPieza_ok ⟨hroto, hllega⟩ hsigue hpieza⟩))
    · by_cases hcabe : CabeEnTrama acceso.bytes.toNat
      · refine .inr (.inr (.inl ⟨rfl, hcabe, hllega, ?_⟩))
        unfold leerPieza
        rw [if_neg hroto, hsigue]
        dsimp only
        rw [hpieza]
        dsimp only
        rw [if_neg (not_not_intro hcabe), if_neg hllega]
      · refine .inr (.inl ⟨hroto, .inr hcabe, ?_⟩)
        unfold leerPieza
        rw [if_neg hroto, hsigue]
        dsimp only
        rw [hpieza]
        dsimp only
        rw [if_pos hcabe]

theorem RamEnRed.escribirPieza_ok [Recepcion] (h : acceso.EscrituraLlega red.rotos)
    (hcorte : red.ram.siguienteCorte = (false, ram)) :
    red.escribirPieza acceso datos =
      some (true, ⟨ram.pedirEscritura acceso.stick acceso.localOffset acceso.bytes datos, red.rotos⟩) := by
  have hno : ¬ (acceso.stick ∈ red.rotos ∨ ¬ CabeEnTrama (largoPedidoEscritura + acceso.bytes.toNat)) :=
    not_or.mpr ⟨h.1, not_not_intro h.2.cabe⟩
  unfold escribirPieza
  rw [if_neg hno, hcorte]
  dsimp only
  rw [if_pos h.2]

theorem RamEnRed.escribirPieza_corte [Recepcion] (h : acceso.EscrituraLlega red.rotos)
    (hcorte : red.ram.siguienteCorte = (true, ram)) :
    red.escribirPieza acceso datos = some (false, RamEnRed.romper ⟨ram, red.rotos⟩ acceso.stick) := by
  have hno : ¬ (acceso.stick ∈ red.rotos ∨ ¬ CabeEnTrama (largoPedidoEscritura + acceso.bytes.toNat)) :=
    not_or.mpr ⟨h.1, not_not_intro h.2.cabe⟩
  unfold escribirPieza
  rw [if_neg hno, hcorte]

/-- What becomes of the request with one piece. -/
theorem RamEnRed.escribirPieza_cases [Recepcion] (red : RamEnRed) (acceso : Acceso) (datos : List UInt8) :
    ((acceso.stick ∈ red.rotos ∨ ¬ CabeEnTrama (largoPedidoEscritura + acceso.bytes.toNat)) ∧
      red.escribirPieza acceso datos = none) ∨
    (acceso.stick ∉ red.rotos ∧ CabeEnTrama (largoPedidoEscritura + acceso.bytes.toNat) ∧
      red.ram.cortes.headD false = true ∧ red.escribirPieza acceso datos = some (false,
        RamEnRed.romper ⟨{ red.ram with cortes := red.ram.cortes.tail }, red.rotos⟩ acceso.stick)) ∨
    (red.ram.cortes.headD false = false ∧ ¬ Llega (largoPedidoEscritura + acceso.bytes.toNat) ∧
      red.escribirPieza acceso datos = none) ∨
    (acceso.EscrituraLlega red.rotos ∧ red.ram.cortes.headD false = false ∧
      red.escribirPieza acceso datos = some (true, ⟨Ram.pedirEscritura
        { red.ram with cortes := red.ram.cortes.tail } acceso.stick acceso.localOffset acceso.bytes datos,
          red.rotos⟩)) := by
  by_cases hno : acceso.stick ∈ red.rotos ∨ ¬ CabeEnTrama (largoPedidoEscritura + acceso.bytes.toNat)
  · refine .inl ⟨hno, ?_⟩
    unfold escribirPieza
    rw [if_pos hno]
  have hbien := not_or.mp hno
  cases hcorte : red.ram.cortes.headD false with
  | true =>
    refine .inr (.inl ⟨hbien.1, not_not.mp hbien.2, rfl, ?_⟩)
    unfold escribirPieza
    rw [if_neg hno, Ram.siguienteCorte_of_headD hcorte]
  | false =>
    have hsigue := Ram.siguienteCorte_of_headD hcorte
    by_cases hllega : Llega (largoPedidoEscritura + acceso.bytes.toNat)
    · exact .inr (.inr (.inr ⟨⟨hbien.1, hllega⟩, rfl, escribirPieza_ok ⟨hbien.1, hllega⟩ hsigue⟩))
    · refine .inr (.inr (.inl ⟨rfl, hllega, ?_⟩))
      unfold escribirPieza
      rw [if_neg hno, hsigue]
      dsimp only
      rw [if_neg hllega]

end Piezas

/-! ## Where the pieces arrive, nothing changes -/

/-- Every piece of a read arrives. -/
def LecturaLlega [Recepcion] (tabla : List MemoryStick) (rotos : List ℕ) (dirFisica tamanio : UInt32) : Prop :=
  ∀ acceso ∈ (accesos tabla dirFisica tamanio).1, acceso.LecturaLlega rotos

/-- Every piece of a write arrives. -/
def EscrituraLlega [Recepcion] (tabla : List MemoryStick) (rotos : List ℕ) (dirFisica tamanio : UInt32) : Prop :=
  ∀ acceso ∈ (accesos tabla dirFisica tamanio).1, acceso.EscrituraLlega rotos

instance [Recepcion] (tabla : List MemoryStick) (rotos : List ℕ) (dirFisica tamanio : UInt32) :
    Decidable (LecturaLlega tabla rotos dirFisica tamanio) := inferInstanceAs (Decidable (∀ _ ∈ _, _))

instance [Recepcion] (tabla : List MemoryStick) (rotos : List ℕ) (dirFisica tamanio : UInt32) :
    Decidable (EscrituraLlega tabla rotos dirFisica tamanio) := inferInstanceAs (Decidable (∀ _ ∈ _, _))

/-- Of connected sticks only the lengths count. -/
theorem lecturaLlega_iff [Recepcion] {tabla : List MemoryStick} {dirFisica tamanio : UInt32} :
    LecturaLlega tabla [] dirFisica tamanio ↔
      ∀ acceso ∈ (accesos tabla dirFisica tamanio).1, Llega acceso.bytes.toNat := by
  unfold LecturaLlega Acceso.LecturaLlega
  simp

theorem escrituraLlega_iff [Recepcion] {tabla : List MemoryStick} {dirFisica tamanio : UInt32} :
    EscrituraLlega tabla [] dirFisica tamanio ↔
      ∀ acceso ∈ (accesos tabla dirFisica tamanio).1, Llega (largoPedidoEscritura + acceso.bytes.toNat) := by
  unfold EscrituraLlega Acceso.EscrituraLlega
  simp

/-- The pieces of a transfer that the receive buffer can hold whole arrive. -/
theorem lecturaLlega_of_corta [Recepcion] {tabla : List MemoryStick} {dirFisica tamanio : UInt32}
    (h : tamanio.toNat ≤ Recepcion.capacidad) : LecturaLlega tabla [] dirFisica tamanio := by
  rw [lecturaLlega_iff]
  intro acceso hacceso
  obtain ⟨hpos, hle⟩ := bytes_accesosIo _ acceso hacceso
  exact ⟨hpos, hle.trans h⟩

theorem escrituraLlega_of_corta [Recepcion] {tabla : List MemoryStick} {dirFisica tamanio : UInt32}
    (h : largoPedidoEscritura + tamanio.toNat ≤ Recepcion.capacidad) :
    EscrituraLlega tabla [] dirFisica tamanio := by
  rw [escrituraLlega_iff]
  intro acceso hacceso
  obtain ⟨hpos, hle⟩ := bytes_accesosIo _ acceso hacceso
  exact ⟨by omega, by omega⟩

theorem leerTramosRed_eq [Recepcion] (pasos : ℕ) {red : RamEnRed} {dirAct restante : UInt32}
    (h : ∀ acceso ∈ (accesosIo pasos red.ram.tabla dirAct restante).1, acceso.LecturaLlega red.rotos) :
    ∃ rotos, leerTramosRed pasos red dirAct restante =
        some ((leerTramos pasos red.ram dirAct restante).1,
          ⟨(leerTramos pasos red.ram dirAct restante).2, rotos⟩) ∧
      (red.ram.cortes = [] → rotos = red.rotos) := by
  induction pasos generalizing red dirAct restante with
  | zero => exact ⟨red.rotos, rfl, fun _ ↦ rfl⟩
  | succ pasos ih =>
    by_cases hcero : restante = 0
    · refine ⟨red.rotos, ?_, fun _ ↦ rfl⟩
      rw [leerTramosRed, if_pos hcero, leerTramos, if_pos hcero]
    · cases hacceso : siguienteAcceso red.ram.tabla dirAct restante with
      | none =>
        refine ⟨red.rotos, ?_, fun _ ↦ rfl⟩
        rw [leerTramosRed, if_neg hcero, hacceso, leerTramos_sinStick pasos hcero hacceso]
      | some acceso =>
        rw [accesosIo_pieza pasos hcero hacceso] at h
        obtain ⟨hllega, hresto⟩ := List.forall_mem_cons.mp h
        rcases hcorte : red.ram.siguienteCorte with ⟨corte, ram⟩
        cases corte with
        | true =>
          refine ⟨acceso.stick :: red.rotos, ?_, fun hcortes ↦ ?_⟩
          · rw [leerTramosRed, if_neg hcero, hacceso, leerTramos_corte pasos hcero hacceso hcorte]
            dsimp only
            rw [RamEnRed.leerPieza_corte hllega.1 hcorte]
            rfl
          · rw [Ram.siguienteCorte, hcortes] at hcorte
            cases hcorte
        | false =>
          obtain ⟨datos, hpieza, -⟩ := pieza_of_acceso hacceso
          have htabla : ram.tabla = red.ram.tabla := Ram.tabla_of_siguienteCorte hcorte
          rw [← htabla] at hresto
          obtain ⟨rotos, hsigue, hrotos⟩ := @ih ⟨ram, red.rotos⟩ _ _ hresto
          refine ⟨rotos, ?_, fun hcortes ↦ hrotos ?_⟩
          · rw [leerTramosRed, if_neg hcero, hacceso, leerTramos_acceso pasos hcero hacceso hcorte hpieza]
            dsimp only
            rw [RamEnRed.leerPieza_ok hllega hcorte hpieza]
            dsimp only
            rw [hsigue]
            rfl
          · rw [Ram.siguienteCorte, hcortes] at hcorte
            cases hcorte
            exact hcortes

theorem escribirTramosRed_eq [Recepcion] (pasos : ℕ) {red : RamEnRed} {dirAct restante : UInt32} {datos : List UInt8}
    (h : ∀ acceso ∈ (accesosIo pasos red.ram.tabla dirAct restante).1, acceso.EscrituraLlega red.rotos) :
    ∃ rotos, escribirTramosRed pasos red dirAct restante datos =
        some ((escribirTramos pasos red.ram dirAct restante datos).1,
          ⟨(escribirTramos pasos red.ram dirAct restante datos).2, rotos⟩) ∧
      (red.ram.cortes = [] → rotos = red.rotos) := by
  induction pasos generalizing red dirAct restante datos with
  | zero => exact ⟨red.rotos, rfl, fun _ ↦ rfl⟩
  | succ pasos ih =>
    by_cases hcero : restante = 0
    · refine ⟨red.rotos, ?_, fun _ ↦ rfl⟩
      rw [escribirTramosRed, if_pos hcero, escribirTramos, if_pos hcero]
    · cases hacceso : siguienteAcceso red.ram.tabla dirAct restante with
      | none =>
        refine ⟨red.rotos, ?_, fun _ ↦ rfl⟩
        rw [escribirTramosRed, if_neg hcero, hacceso, escribirTramos_sinStick pasos hcero hacceso]
      | some acceso =>
        rw [accesosIo_pieza pasos hcero hacceso] at h
        obtain ⟨hllega, hresto⟩ := List.forall_mem_cons.mp h
        rcases hcorte : red.ram.siguienteCorte with ⟨corte, ram⟩
        cases corte with
        | true =>
          refine ⟨acceso.stick :: red.rotos, ?_, fun hcortes ↦ ?_⟩
          · rw [escribirTramosRed, if_neg hcero, hacceso, escribirTramos_corte pasos hcero hacceso hcorte]
            dsimp only
            rw [RamEnRed.escribirPieza_corte hllega hcorte]
            rfl
          · rw [Ram.siguienteCorte, hcortes] at hcorte
            cases hcorte
        | false =>
          have htabla : ram.tabla = red.ram.tabla := Ram.tabla_of_siguienteCorte hcorte
          rw [← htabla, ← (ram.mismaTabla_pedirEscritura acceso datos).accesosIo] at hresto
          obtain ⟨rotos, hsigue, hrotos⟩ :=
            @ih ⟨ram.pedirEscritura acceso.stick acceso.localOffset acceso.bytes datos, red.rotos⟩ _ _
              (datos.drop acceso.bytes.toNat) hresto
          refine ⟨rotos, ?_, fun hcortes ↦ hrotos ?_⟩
          · rw [escribirTramosRed, if_neg hcero, hacceso, escribirTramos_acceso pasos hcero hacceso hcorte]
            dsimp only
            rw [RamEnRed.escribirPieza_ok hllega hcorte]
            exact hsigue
          · rw [Ram.siguienteCorte, hcortes] at hcorte
            cases hcorte
            exact hcortes

/-! ## How a transfer comes to its end -/

section Fin

variable [Recepcion] {red despues : RamEnRed} {dirAct restante dirFisica tamanio : UInt32} {datos : List UInt8}

/-- Every piece of a read arrives, or one connection breaks. -/
theorem leerTramosRed_cases (pasos : ℕ) {leido : Except FalloIo (List UInt8)}
    (h : leerTramosRed pasos red dirAct restante = some (leido, despues)) :
    (∀ acceso ∈ (accesosIo pasos red.ram.tabla dirAct restante).1, acceso.LecturaLlega red.rotos) ∧
        leido ≠ .error .desconectado ∧ despues.rotos = red.rotos ∨
      leido = .error .desconectado ∧ ∃ stick, despues.rotos = stick :: red.rotos := by
  induction pasos generalizing red dirAct restante leido with
  | zero =>
    cases h
    exact .inl ⟨List.forall_mem_nil _, by simp, rfl⟩
  | succ pasos ih =>
    by_cases hcero : restante = 0
    · rw [leerTramosRed, if_pos hcero] at h
      cases h
      rw [accesosIo, if_pos hcero]
      exact .inl ⟨List.forall_mem_nil _, by simp, rfl⟩
    · cases hacceso : siguienteAcceso red.ram.tabla dirAct restante with
      | none =>
        rw [leerTramosRed, if_neg hcero, hacceso] at h
        cases h
        rw [accesosIo_sinStick pasos hcero hacceso]
        exact .inl ⟨List.forall_mem_nil _, by simp, rfl⟩
      | some acceso =>
        obtain ⟨datos, hdatos, -⟩ := pieza_of_acceso hacceso
        rw [leerTramosRed, if_neg hcero, hacceso] at h
        rw [accesosIo_pieza pasos hcero hacceso]
        dsimp only at h
        rcases RamEnRed.leerPieza_cases hdatos with ⟨-, hpieza⟩ | ⟨-, -, hpieza⟩ | ⟨-, -, -, hpieza⟩ |
          ⟨hllega, -, -, hpieza⟩
        · rw [hpieza] at h
          cases h
        · rw [hpieza] at h
          cases h
          exact .inr ⟨rfl, _, rfl⟩
        · rw [hpieza] at h
          cases h
        · rw [hpieza] at h
          obtain ⟨⟨resto, final⟩, hsigue, hfinal⟩ := Option.map_eq_some_iff.mp h
          cases hfinal
          rcases ih hsigue with ⟨hresto, hno, hrotos⟩ | ⟨rfl, hrotos⟩
          · refine .inl ⟨List.forall_mem_cons.mpr ⟨hllega, hresto⟩, ?_, hrotos⟩
            intro hleido
            cases resto with
            | ok otros => cases hleido
            | error fallo => exact hno hleido
          · exact .inr ⟨rfl, hrotos⟩

theorem escribirTramosRed_cases (pasos : ℕ) {escrito : Except FalloIo Unit}
    (h : escribirTramosRed pasos red dirAct restante datos = some (escrito, despues)) :
    (∀ acceso ∈ (accesosIo pasos red.ram.tabla dirAct restante).1, acceso.EscrituraLlega red.rotos) ∧
        escrito ≠ .error .desconectado ∧ despues.rotos = red.rotos ∨
      escrito = .error .desconectado ∧ ∃ stick, despues.rotos = stick :: red.rotos := by
  induction pasos generalizing red dirAct restante datos with
  | zero =>
    cases h
    exact .inl ⟨List.forall_mem_nil _, by simp, rfl⟩
  | succ pasos ih =>
    by_cases hcero : restante = 0
    · rw [escribirTramosRed, if_pos hcero] at h
      cases h
      rw [accesosIo, if_pos hcero]
      exact .inl ⟨List.forall_mem_nil _, by simp, rfl⟩
    · cases hacceso : siguienteAcceso red.ram.tabla dirAct restante with
      | none =>
        rw [escribirTramosRed, if_neg hcero, hacceso] at h
        cases h
        rw [accesosIo_sinStick pasos hcero hacceso]
        exact .inl ⟨List.forall_mem_nil _, by simp, rfl⟩
      | some acceso =>
        rw [escribirTramosRed, if_neg hcero, hacceso] at h
        rw [accesosIo_pieza pasos hcero hacceso]
        dsimp only at h
        rcases red.escribirPieza_cases acceso datos with ⟨-, hpieza⟩ | ⟨-, -, -, hpieza⟩ | ⟨-, -, hpieza⟩ |
          ⟨hllega, -, hpieza⟩
        · rw [hpieza] at h
          cases h
        · rw [hpieza] at h
          cases h
          exact .inr ⟨rfl, _, rfl⟩
        · rw [hpieza] at h
          cases h
        · rw [hpieza] at h
          have hih := ih h
          rw [(Ram.mismaTabla_pedirEscritura _ acceso datos).accesosIo] at hih
          refine hih.imp_left fun hsigue ↦ ?_
          exact ⟨List.forall_mem_cons.mpr ⟨hllega, hsigue.1⟩, hsigue.2⟩

theorem lecturaLlega_of_leerTramosRed (pasos : ℕ) {leido : Except FalloIo (List UInt8)}
    (h : leerTramosRed pasos red dirAct restante = some (leido, despues)) (hleido : leido ≠ .error .desconectado) :
    ∀ acceso ∈ (accesosIo pasos red.ram.tabla dirAct restante).1, acceso.LecturaLlega red.rotos :=
  (leerTramosRed_cases pasos h).elim And.left fun hroto ↦ absurd hroto.1 hleido

theorem escrituraLlega_of_escribirTramosRed (pasos : ℕ) {escrito : Except FalloIo Unit}
    (h : escribirTramosRed pasos red dirAct restante datos = some (escrito, despues))
    (hescrito : escrito ≠ .error .desconectado) :
    ∀ acceso ∈ (accesosIo pasos red.ram.tabla dirAct restante).1, acceso.EscrituraLlega red.rotos :=
  (escribirTramosRed_cases pasos h).elim And.left fun hroto ↦ absurd hroto.1 hescrito

/-- A write that comes to its end has done what the loop of `memory_io_escribir` says. -/
theorem escribirTramos_of_red (pasos : ℕ) {escrito : Except FalloIo Unit}
    (h : escribirTramosRed pasos red dirAct restante datos = some (escrito, despues)) :
    escribirTramos pasos red.ram dirAct restante datos = (escrito, despues.ram) := by
  induction pasos generalizing red dirAct restante datos with
  | zero =>
    cases h
    rfl
  | succ pasos ih =>
    by_cases hcero : restante = 0
    · rw [escribirTramosRed, if_pos hcero] at h
      cases h
      rw [escribirTramos, if_pos hcero]
    · cases hacceso : siguienteAcceso red.ram.tabla dirAct restante with
      | none =>
        rw [escribirTramosRed, if_neg hcero, hacceso] at h
        cases h
        rw [escribirTramos_sinStick pasos hcero hacceso]
      | some acceso =>
        rw [escribirTramosRed, if_neg hcero, hacceso] at h
        dsimp only at h
        rcases red.escribirPieza_cases acceso datos with ⟨-, hpieza⟩ | ⟨-, -, hcorte, hpieza⟩ |
          ⟨-, -, hpieza⟩ | ⟨-, hcorte, hpieza⟩
        · rw [hpieza] at h
          cases h
        · rw [hpieza] at h
          cases h
          rw [escribirTramos_corte pasos hcero hacceso (Ram.siguienteCorte_of_headD hcorte)]
          rfl
        · rw [hpieza] at h
          cases h
        · rw [hpieza] at h
          rw [escribirTramos_acceso pasos hcero hacceso (Ram.siguienteCorte_of_headD hcorte)]
          exact ih h

theorem memoryIoEscribir_of_red {escrito : Except FalloIo Unit}
    (h : memoryIoEscribirRed red dirFisica tamanio datos = some (escrito, despues)) :
    memoryIoEscribir red.ram dirFisica tamanio datos = (escrito, despues.ram) :=
  escribirTramos_of_red tamanio.toNat h

/-- A read that comes back with bytes is the one of `memory_io_leer`. -/
theorem memoryIoLeer_of_red
    (h : memoryIoLeerRed red dirFisica tamanio = some (.ok datos, despues)) :
    memoryIoLeer red.ram dirFisica tamanio = (.ok datos, despues.ram) := by
  have hllega := lecturaLlega_of_leerTramosRed tamanio.toNat h (by simp)
  obtain ⟨rotos, heq, -⟩ := leerTramosRed_eq tamanio.toNat hllega
  obtain ⟨hleido, hdespues⟩ := Prod.mk.inj (Option.some.inj (h.symm.trans heq))
  rw [hdespues]
  exact Prod.ext hleido.symm rfl

end Fin

/-! ## Whole transfers -/

section Transferencias

variable [Recepcion] {red : RamEnRed} {dirFisica tamanio : UInt32} {datos : List UInt8}

theorem memoryIoLeerRed_eq (hcortes : red.ram.cortes = [])
    (hllega : LecturaLlega red.ram.tabla red.rotos dirFisica tamanio) :
    memoryIoLeerRed red dirFisica tamanio = some ((memoryIoLeer red.ram dirFisica tamanio).1,
      ⟨(memoryIoLeer red.ram dirFisica tamanio).2, red.rotos⟩) := by
  obtain ⟨rotos, heq, hrotos⟩ := leerTramosRed_eq tamanio.toNat hllega
  rw [hrotos hcortes] at heq
  exact heq

theorem memoryIoEscribirRed_eq (hcortes : red.ram.cortes = [])
    (hllega : EscrituraLlega red.ram.tabla red.rotos dirFisica tamanio) :
    memoryIoEscribirRed red dirFisica tamanio datos =
      some ((memoryIoEscribir red.ram dirFisica tamanio datos).1,
        ⟨(memoryIoEscribir red.ram dirFisica tamanio datos).2, red.rotos⟩) := by
  obtain ⟨rotos, heq, hrotos⟩ := @escribirTramosRed_eq _ tamanio.toNat red dirFisica tamanio datos hllega
  rw [hrotos hcortes] at heq
  exact heq

end Transferencias

/-- Which pieces arrive does not depend on what the sticks hold. -/
theorem MismaTabla.lecturaLlega [Recepcion] {tabla otra : List MemoryStick} (h : MismaTabla tabla otra)
    (rotos : List ℕ) (dirFisica tamanio : UInt32) :
    LecturaLlega tabla rotos dirFisica tamanio ↔ LecturaLlega otra rotos dirFisica tamanio := by
  unfold LecturaLlega accesos
  rw [h.accesosIo]

theorem MismaTabla.escrituraLlega [Recepcion] {tabla otra : List MemoryStick} (h : MismaTabla tabla otra)
    (rotos : List ℕ) (dirFisica tamanio : UInt32) :
    EscrituraLlega tabla rotos dirFisica tamanio ↔ EscrituraLlega otra rotos dirFisica tamanio := by
  unfold EscrituraLlega accesos
  rw [h.accesosIo]

end PlugAndPlay.Memoria
