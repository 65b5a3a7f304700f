import Ansisop.Lib.Runs
import Ansisop.Lib.Layout
import Ansisop.Lib.Memory
import Ansisop.Lib.SegMem
import Ansisop.Lib.HashTable
import Ansisop.Lib.Words
import Ansisop.Lib.Totals
import Ansisop.Lib.Historia
import Ansisop.Lib.Pipe
import Ansisop.Lib.Checked
import Ansisop.Lib.Lines
import Ansisop.Lib.FreeSpace
import Ansisop.Lib.StableSort
import Ansisop.Lib.LeadsTo
import Ansisop.Lib.Chains
import Ansisop.Protocolo.Tipos
import Ansisop.Commons.Log
import Ansisop.Protocolo.Mensajes
import Ansisop.Protocolo.KernelCpu
import Ansisop.Protocolo.Fragmentos
import Ansisop.Umv.Tabla
import Ansisop.Umv.Busqueda
import Ansisop.Umv.Compactacion
import Ansisop.Umv.Pedidos
import Ansisop.Umv.Sistema
import Ansisop.Umv.Proteccion
import Ansisop.Umv.Abstracta
import Ansisop.Umv.Reserva
import Ansisop.Umv.Protocolo
import Ansisop.Protocolo.Limites
import Ansisop.Umv.Conexiones
import Ansisop.Umv.Controlador
import Ansisop.Umv.SegmentosVacios
import Ansisop.Umv.Ajuste
import Ansisop.Umv.Dump
import Ansisop.Umv.Comandos
import Ansisop.Cpu.Maquina
import Ansisop.Cpu.Primitivas
import Ansisop.Cpu.Analizador
import Ansisop.Cpu.Rafaga
import Ansisop.Cpu.Registro
import Ansisop.Cpu.FinDeRafaga
import Ansisop.Cpu.Pila
import Ansisop.Cpu.Contextos
import Ansisop.Cpu.Mundo
import Ansisop.Cpu.Anidamiento
import Ansisop.Kernel.Sistema
import Ansisop.Kernel.Conservacion
import Ansisop.Kernel.Perdidas
import Ansisop.Kernel.Semaforos
import Ansisop.Kernel.Fichas
import Ansisop.Kernel.ColaNew
import Ansisop.Kernel.Planificador
import Ansisop.Kernel.Propiedad
import Ansisop.Kernel.Continuidad
import Ansisop.Kernel.Llamadas
import Ansisop.Kernel.Entrega
import Ansisop.Kernel.Conversacion
import Ansisop.Kernel.Admision
import Ansisop.Cpu.Reanudacion
import Ansisop.Programa.Consola
import Ansisop.Protocolo.Desconexion
import Ansisop.Kernel.Metadata
import Ansisop.Kernel.Alojado
import Ansisop.Kernel.Punteros
import Ansisop.Kernel.Variables
import Ansisop.Cpu.Instrucciones
import Ansisop.Cpu.Etiquetas
import Ansisop.Lenguaje.Textos
import Ansisop.Lenguaje.Expresiones
import Ansisop.Lenguaje.Sentencias
import Ansisop.Lenguaje.Contextos
import Ansisop.Lenguaje.Ejecucion
import Ansisop.Lenguaje.Simulacion
import Ansisop.Lenguaje.Rafagas
import Ansisop.Lenguaje.Lectura
import Ansisop.Lenguaje.Puesto
import Ansisop.Lenguaje.Vida
import Ansisop.Lenguaje.Admitido
import Ansisop.Lenguaje.Servidores
import Ansisop.Lenguaje.Evaluacion
import Ansisop.Lenguaje.Reglas
import Ansisop.Lenguaje.Mcd
import Ansisop.Commons.Listas
import Ansisop.Commons.Orden
import Ansisop.Commons.Corridas
