import PlugAndPlay.Library.Blocking
import PlugAndPlay.Library.ByteRange
import PlugAndPlay.Library.ByteMemory
import PlugAndPlay.Library.FreeRuns
import PlugAndPlay.Library.Inheritance
import PlugAndPlay.Library.ListModify
import PlugAndPlay.Library.Packing
import PlugAndPlay.Library.Pointwise
import PlugAndPlay.Library.StreamReader
import PlugAndPlay.Library.Transitions
import PlugAndPlay.Memoria.Tipos
import PlugAndPlay.Memoria.BloquesLibres
import PlugAndPlay.Memoria.BloquesExactos
import PlugAndPlay.Memoria.Conexiones
import PlugAndPlay.Memoria.MemoryIo
import PlugAndPlay.Memoria.Procesos
import PlugAndPlay.Memoria.Estado
import PlugAndPlay.Memoria.Compactacion
import PlugAndPlay.Memoria.CompactacionPreserva
import PlugAndPlay.Memoria.Scheduler
import PlugAndPlay.Memoria.Cpu
import PlugAndPlay.Memoria.Operaciones
import PlugAndPlay.Memoria.SchedulerRangos
import PlugAndPlay.Memoria.Particion
import PlugAndPlay.Memoria.ParticionOperaciones
import PlugAndPlay.Memoria.SwapArchivo
import PlugAndPlay.Memoria.SwapSinReuso
import PlugAndPlay.Memoria.Suspension
import PlugAndPlay.Memoria.Reanudacion
import PlugAndPlay.Memoria.IdaYVuelta
import PlugAndPlay.Memoria.ContextosCpu
import PlugAndPlay.Memoria.HiloScheduler
import PlugAndPlay.Memoria.RegistroSticks
import PlugAndPlay.Memoria.HilosRam
import PlugAndPlay.Memoria.RamAlcanzable
import PlugAndPlay.Memoria.RegistroCpus
import PlugAndPlay.Red.Serializacion
import PlugAndPlay.Red.Mensajes
import PlugAndPlay.Red.IdaYVueltaMensajes
import PlugAndPlay.Red.SocketScheduler
import PlugAndPlay.Memoria.Accesos
import PlugAndPlay.Memoria.RamEnRed
import PlugAndPlay.Memoria.RamPlana
import PlugAndPlay.Memoria.CompactacionEnRed
import PlugAndPlay.Memoria.TransferenciasEnRed
import PlugAndPlay.Memoria.Respuestas
import PlugAndPlay.Cpu.Mmu
import PlugAndPlay.Cpu.DosCaminos
import PlugAndPlay.Cpu.MmuPlana
import PlugAndPlay.Cpu.Ciclo
import PlugAndPlay.Cpu.Desalojo
import PlugAndPlay.Planificador.Tipos
import PlugAndPlay.Planificador.Cpus
import PlugAndPlay.Planificador.ColasReady
import PlugAndPlay.Planificador.Herencia
import PlugAndPlay.Planificador.LiberarMutexes
import PlugAndPlay.Planificador.SyscallsMutex
import PlugAndPlay.Planificador.HerenciaExacta
import PlugAndPlay.Planificador.SyscallsMutexCorridas
import PlugAndPlay.Planificador.ColaIo
import PlugAndPlay.Planificador.Receptor
import PlugAndPlay.Planificador.RespuestasPareadas
import PlugAndPlay.Planificador.Planificadores
import PlugAndPlay.Planificador.Sistema
import PlugAndPlay.Planificador.Lugares
import PlugAndPlay.Planificador.UnSoloLugar
import PlugAndPlay.Planificador.Progreso
import PlugAndPlay.Planificador.ProgresoIo
import PlugAndPlay.Planificador.SinPerdidos
import PlugAndPlay.Planificador.NivelesReady
import PlugAndPlay.Planificador.NivelesReadySyscalls
import PlugAndPlay.Planificador.NivelesReadyCorridas
import PlugAndPlay.Planificador.ConexionesCpu
import PlugAndPlay.Planificador.EpisodiosQuantum
import PlugAndPlay.Cpu.Interrupciones
import PlugAndPlay.Planificador.Notificaciones
import PlugAndPlay.Planificador.NotificacionesLeidas
import PlugAndPlay.Planificador.NotificacionesCorridas
import PlugAndPlay.Planificador.Sitios
import PlugAndPlay.Planificador.Detenidos
import PlugAndPlay.Planificador.SitiosPasos
import PlugAndPlay.Planificador.EstadosCiertos
import PlugAndPlay.Memoria.ListaProcesos
import PlugAndPlay.Planificador.Marcos
import PlugAndPlay.Planificador.MutexesPorNombre
import PlugAndPlay.Planificador.Registros
import PlugAndPlay.Planificador.RegistrosPasos
import PlugAndPlay.Memoria.EscriturasCortadas
import PlugAndPlay.Memoria.ConfirmacionesVeraces
import PlugAndPlay.Memoria.ReanudacionAtomica
import PlugAndPlay.Library.RangeCount
import PlugAndPlay.Memoria.LibresSeparados
import PlugAndPlay.Memoria.AsignacionCompleta
import PlugAndPlay.Planificador.DemuxMemoria
import PlugAndPlay.Library.Layout
import PlugAndPlay.Memoria.DireccionesSticks
import PlugAndPlay.Memoria.ProcesoStick
import PlugAndPlay.Planificador.HerenciaTermina
import PlugAndPlay.Library.LineReader
import PlugAndPlay.Memoria.Scripts
import PlugAndPlay.Io.Stdin
import PlugAndPlay.Cpu.EspacioReportado
import PlugAndPlay.Cpu.FetchDecode
import PlugAndPlay.Planificador.CmnSinNiveles
import PlugAndPlay.Cpu.InstruccionesMemoria
import PlugAndPlay.Planificador.HilosConservan
import PlugAndPlay.Planificador.CpusReservadas
import PlugAndPlay.Planificador.Despertares
import PlugAndPlay.Planificador.DesalojoColasCorridas
import PlugAndPlay.Cpu.MemoriasPrivadasCorridas
import PlugAndPlay.Planificador.SuspensionesAvisos
import PlugAndPlay.Planificador.SuspensionesEpisodios
import PlugAndPlay.Memoria.ProcesosConservan
import PlugAndPlay.Cpu.Programas
import PlugAndPlay.Cpu.ProgramasCorridas
import PlugAndPlay.Library.RemoteCalls
import PlugAndPlay.Library.ReaderCalls
import PlugAndPlay.Red.LectoresEstables
import PlugAndPlay.Memoria.LlamadasSwap
import PlugAndPlay.Memoria.LlamadasStick
import PlugAndPlay.Memoria.LlamadasCpus
import PlugAndPlay.Io.LlamadasIo
import PlugAndPlay.Planificador.SyscallsDeCpu
