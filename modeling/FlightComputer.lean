import FlightComputer.Utils.Machine
import FlightComputer.Utils.Words
import FlightComputer.Utils.Codec
import FlightComputer.Utils.Scanner
import FlightComputer.Utils.CLib
import FlightComputer.Messages
import FlightComputer.Time
import FlightComputer.RollControl
import FlightComputer.RollControlTheorems
import FlightComputer.Utils.History
import FlightComputer.Arm
import FlightComputer.ArmTheorems
import FlightComputer.Logger
import FlightComputer.LoggerTheorems
import FlightComputer.Gps
import FlightComputer.GpsTheorems
import FlightComputer.Ethmux
import FlightComputer.EthmuxTheorems
import FlightComputer.StateEstimation
import FlightComputer.Main
import FlightComputer.MainTheorems
import FlightComputer.TimeTheorems
import FlightComputer.CutoffTheorems
import FlightComputer.StateEstimationTheorems
import FlightComputer.CommandTheorems
import FlightComputer.GpsFrames
import FlightComputer.SensorTheorems
import FlightComputer.TimeBaseTheorems
import FlightComputer.GpsBuffer
import FlightComputer.GpsBufferTheorems
import FlightComputer.RollServo
import FlightComputer.TimeWords
import FlightComputer.TrajectoryTheorems
import FlightComputer.Utils.Response
import FlightComputer.ControlLawTheorems
import FlightComputer.Utils.Simulation
import FlightComputer.Utils.Truncation
import FlightComputer.Program
import FlightComputer.ProgramTheorems
import FlightComputer.RecorderTheorems
import FlightComputer.FlightLogTheorems
import FlightComputer.GpsStreamTheorems
import FlightComputer.Steering
import FlightComputer.SteeringTheorems
import FlightComputer.ServoTheorems
import FlightComputer.ControllerTheorems
import FlightComputer.FinTheorems
import FlightComputer.Operator
import FlightComputer.OperatorTheorems
import FlightComputer.LogFiles
import FlightComputer.LogFilesTheorems
import FlightComputer.IsolationTheorems
